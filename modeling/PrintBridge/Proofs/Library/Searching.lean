import PrintBridge.Files.Snapshot
import PrintBridge.Library.Search

/-!
# Searching for Libraries

Which library a name gives, told without the search.

A relative name has its candidates in the search directories, some in each of
them. They come one after the other: those in an earlier directory before those
in a later one, and in one directory the name itself before the short forms. A
`Turn` says when a candidate comes, and the order of turns is lexicographic. The
library is the first regular file in this order, and if there is no regular file
among all candidates then there is no library.

So whatever else stands at a candidate is passed over, and nothing behind the
first regular file has a say. Both say that two views of files which agree about
regular files, up to the match, give the same match.

An absolute name is not searched for. It is taken exactly if anything stands
there, and no other path and no search directory matters.

## Main definitions

* `Search.Turn`: When a candidate comes.
* `Search.candidateAt?`: The candidate of a turn.
* `Search.FirstAt`: The first regular file among the candidates.

## Theorems

* `find?_eq_some_iff`, `find?_eq_none_iff`: A relative name gives the first
  regular candidate, or nothing if there is none.
* `FirstAt.congr`: What comes behind the match does not matter.
* `find?_first_match`: The law of the search.
-/

namespace PrintBridge

namespace Search

/-- When a candidate comes: in which of the directories, and as which of the
    candidates there. -/
structure Turn where
  directory : Nat
  candidate : Nat

/-- Directories come first, and then the candidates within one. -/
def Turn.Before (t u : Turn) : Prop :=
  t.directory < u.directory ∨ t.directory = u.directory ∧ t.candidate < u.candidate

/-- The candidate of a turn, if there is one. -/
def candidateAt? (directories : List Path) (name : String) (t : Turn) : Option Path :=
  directories[t.directory]?.bind fun directory => (candidates name directory)[t.candidate]?

/-- A regular file with the turn of a candidate before which no candidate is
    one. -/
structure FirstAt (files : Files) (directories : List Path) (name : String) (t : Turn)
    (p : Path) : Prop where
  candidate : candidateAt? directories name t = some p
  regular : files.isFile p = true
  passed : ∀ u q, u.Before t → candidateAt? directories name u = some q → files.isFile q = false

variable {files other : Files} {directories : List Path} {name : String}

/-- What has a turn is a candidate in the directory of its turn. -/
theorem candidateAt?_eq_some_iff {t : Turn} {q : Path} :
    candidateAt? directories name t = some q ↔
      ∃ directory, directories[t.directory]? = some directory ∧
        (candidates name directory)[t.candidate]? = some q := by
  rw [candidateAt?, Option.bind_eq_some_iff]

/-- A path that was found has a turn, and no regular file comes before it. -/
theorem firstAt_of_find? {p : Path} (habsolute : (Path.ofText name).isAbsolute = false)
    (h : find? files directories name = some p) :
    ∃ t, FirstAt files directories name t p := by
  simp only [find?, habsolute, Bool.false_eq_true, if_false] at h
  rcases List.findSome?_eq_some_iff.1 h with ⟨front, directory, back, rfl, hwithin, hfront⟩
  rw [within?_eq_find?] at hwithin
  rcases List.find?_eq_some_iff_getElem.1 hwithin with ⟨hregular, j, hj, hp, hbefore⟩
  refine ⟨⟨front.length, j⟩, ?_, hregular, fun u q hu hq => ?_⟩
  · rw [candidateAt?, List.getElem?_append_right (Nat.le_refl _), Nat.sub_self]
    exact (List.getElem?_eq_getElem hj).trans (congrArg some hp)
  · rcases candidateAt?_eq_some_iff.1 hq with ⟨e, he, hqe⟩
    rcases hu with hearlier | ⟨hsame, hlt⟩
    · -- An earlier directory had no match, so none of its candidates is regular.
      rw [List.getElem?_append_left hearlier] at he
      have hnone := hfront e (List.mem_of_getElem? he)
      rw [within?_eq_find?] at hnone
      exact Bool.eq_false_iff.2 (List.find?_eq_none.1 hnone q (List.mem_of_getElem? hqe))
    · -- In the directory of the match the candidates before it were looked at.
      simp only at hsame hlt
      rw [hsame, List.getElem?_append_right (Nat.le_refl _), Nat.sub_self] at he
      obtain rfl : directory = e := Option.some.inj he
      rcases List.getElem?_eq_some_iff.1 hqe with ⟨_, hat⟩
      have hpassed := hbefore u.candidate hlt
      rw [hat, Bool.not_eq_true'] at hpassed
      exact hpassed

/-- Where nothing is found, no candidate is a regular file. -/
theorem passed_of_find?_none (habsolute : (Path.ofText name).isAbsolute = false)
    (h : find? files directories name = none) {t : Turn} {q : Path}
    (hq : candidateAt? directories name t = some q) : files.isFile q = false := by
  rw [find?_relative files directories name habsolute] at h
  rcases candidateAt?_eq_some_iff.1 hq with ⟨e, he, hqe⟩
  have hmem : q ∈ directories.flatMap (candidates name) :=
    List.mem_flatMap.2 ⟨e, List.mem_of_getElem? he, List.mem_of_getElem? hqe⟩
  exact Bool.eq_false_iff.2 (List.find?_eq_none.1 h q hmem)

theorem Turn.trichotomy (t u : Turn) : t.Before u ∨ t = u ∨ u.Before t := by
  rcases t with ⟨i, j⟩
  rcases u with ⟨k, l⟩
  simp only [Turn.Before, Turn.mk.injEq]
  omega

/-- There is one first regular file. -/
theorem FirstAt.unique {t u : Turn} {p q : Path} (hp : FirstAt files directories name t p)
    (hq : FirstAt files directories name u q) : p = q := by
  rcases Turn.trichotomy t u with hbefore | rfl | hbefore
  · have hpassed := hq.passed t p hbefore hp.candidate
    rw [hp.regular] at hpassed
    exact absurd hpassed (Ne.symm Bool.false_ne_true)
  · exact Option.some.inj (hp.candidate.symm.trans hq.candidate)
  · have hpassed := hp.passed u q hbefore hq.candidate
    rw [hq.regular] at hpassed
    exact absurd hpassed (Ne.symm Bool.false_ne_true)

/-- A relative name gives the first regular file among its candidates. -/
theorem find?_eq_some_iff (habsolute : (Path.ofText name).isAbsolute = false) (p : Path) :
    find? files directories name = some p ↔ ∃ t, FirstAt files directories name t p := by
  constructor
  · exact firstAt_of_find? habsolute
  · rintro ⟨t, hp⟩
    -- The search gives something, since there is a regular candidate.
    rcases hfind : find? files directories name with _ | q
    · have hpassed := passed_of_find?_none habsolute hfind hp.candidate
      rw [hp.regular] at hpassed
      exact absurd hpassed (Ne.symm Bool.false_ne_true)
    · rcases firstAt_of_find? habsolute hfind with ⟨u, hq⟩
      rw [hp.unique hq]

/-- It gives nothing exactly if none of its candidates is regular. -/
theorem find?_eq_none_iff (habsolute : (Path.ofText name).isAbsolute = false) :
    find? files directories name = none ↔
      ∀ t q, candidateAt? directories name t = some q → files.isFile q = false := by
  constructor
  · intro h t q hq
    exact passed_of_find?_none habsolute h hq
  · intro h
    refine Option.eq_none_iff_forall_ne_some.2 fun p hp => ?_
    rcases firstAt_of_find? habsolute hp with ⟨t, hfirst⟩
    have hpassed := h t p hfirst.candidate
    rw [hfirst.regular] at hpassed
    exact absurd hpassed (Ne.symm Bool.false_ne_true)

/-- What comes behind the first regular file does not matter for it. -/
theorem FirstAt.congr {t : Turn} {p : Path} (h : FirstAt files directories name t p)
    (hagree : ∀ u q, u = t ∨ u.Before t → candidateAt? directories name u = some q →
      other.isFile q = files.isFile q) : FirstAt other directories name t p where
  candidate := h.candidate
  regular := by rw [hagree t p (.inl rfl) h.candidate, h.regular]
  passed u q hu hq := by rw [hagree u q (.inr hu) hq, h.passed u q hu hq]

/-- An absolute name is taken exactly if something stands there. -/
theorem find?_absolute (habsolute : (Path.ofText name).isAbsolute = true) (p : Path) :
    find? files directories name = some p ↔
      p = Path.ofText name ∧ files.hasEntry (Path.ofText name) = true := by
  simp only [find?, habsolute, if_true]
  by_cases hentry : files.hasEntry (Path.ofText name) = true
  · rw [if_pos hentry, Option.some.injEq]
    exact ⟨fun h => ⟨h.symm, hentry⟩, fun h => h.1.symm⟩
  · rw [if_neg hentry]
    exact ⟨fun h => absurd h (by simp only [reduceCtorEq, not_false_eq_true]),
      fun h => absurd h.2 hentry⟩

/-- The law of the search, over any files, any directories and any name.

    An absolute name gives itself if something stands there, and nothing else is
    looked at. A relative name gives the first regular file in the order of turns,
    and nothing exactly if no candidate of any turn is one. What is no regular file
    is passed over, be it a directory or nothing at all, so only regular files
    among the candidates have a say, and of these only those up to the match. -/
theorem find?_first_match (files : Files) (directories : List Path) (name : String) :
    ((Path.ofText name).isAbsolute = true →
      (∀ p, find? files directories name = some p ↔
        p = Path.ofText name ∧ files.hasEntry (Path.ofText name) = true) ∧
      ∀ (other : Files) (others : List Path),
        other.hasEntry (Path.ofText name) = files.hasEntry (Path.ofText name) →
          find? other others name = find? files directories name) ∧
    ((Path.ofText name).isAbsolute = false →
      (∀ p, find? files directories name = some p ↔ ∃ t, FirstAt files directories name t p) ∧
      (find? files directories name = none ↔
        ∀ t q, candidateAt? directories name t = some q → files.isFile q = false) ∧
      (∀ other : Files,
        (∀ t q, candidateAt? directories name t = some q → other.isFile q = files.isFile q) →
          find? other directories name = find? files directories name) ∧
      ∀ t p, FirstAt files directories name t p → ∀ other : Files,
        (∀ u q, u = t ∨ u.Before t → candidateAt? directories name u = some q →
          other.isFile q = files.isFile q) →
        find? other directories name = some p) := by
  refine ⟨fun habsolute => ⟨find?_absolute habsolute, fun other others hentry => ?_⟩,
    fun habsolute => ⟨find?_eq_some_iff habsolute, find?_eq_none_iff habsolute,
      fun other hagree => ?_, fun t p hfirst other hagree => ?_⟩⟩
  · refine Option.ext fun p => ?_
    rw [find?_absolute habsolute, find?_absolute habsolute, hentry]
  · refine Option.ext fun p => ?_
    rw [find?_eq_some_iff habsolute, find?_eq_some_iff habsolute]
    constructor
    · rintro ⟨t, hfirst⟩
      exact ⟨t, hfirst.congr fun u q _ hq => (hagree u q hq).symm⟩
    · rintro ⟨t, hfirst⟩
      exact ⟨t, hfirst.congr fun u q _ hq => hagree u q hq⟩
  · exact (find?_eq_some_iff habsolute p).2 ⟨t, hfirst.congr hagree⟩

/-- A directory under the name itself is passed over, and a short form in an
    earlier directory goes before the name itself in a later one. -/
example :
    let file : Except FileError Bytes := .ok []
    let files := Snapshot.view [⟨Path.ofText "/a/m", .error .isDirectory⟩,
      ⟨Path.ofText "/a/m.so", file⟩, ⟨Path.ofText "/b/m", file⟩]
    find? files [Path.ofText "/a", Path.ofText "/b"] "m" = some (Path.ofText "/a/m.so") := by
  decide +kernel

end Search

end PrintBridge
