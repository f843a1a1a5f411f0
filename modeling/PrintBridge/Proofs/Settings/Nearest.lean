import Mathlib.Data.List.Induction
import PrintBridge.Files.Tree
import PrintBridge.Proofs.Files.Steps
import PrintBridge.Proofs.Results
import PrintBridge.Settings.Discovery

/-!
# The Nearest Settings

Which settings file the search comes upon, told by the tree of files and not by
the text of the path.

The search drops one step of the path after the other. As long as no step goes
up, dropping a step is the same as going to the directory above, and the places
searched are exactly those from the start up to where the path sets out: the
root, or the working directory for a relative path. Of these the search finds
the lowest with a settings file in it. This is `findRoot?_nearest`, by induction
on the parents of the path. Each of them is `Searched`: it leads where its
steps say.

Both restrictions are real. Where two dots are dropped, the search goes down
again to a directory that is not above the start. And a relative path never
leads the search above the working directory. `fromDirectory_dots` has both, as
what cannot be said of all paths.

## Main definitions

* `FileTree.Grown`: Whatever stands in a tree stands in a directory.
* `FileTree.HasSettings`: A place with a settings file in it.
* `FileTree.NearestFrom`: The lowest such place between two others.
* `LeadsTo`: A path to an existing directory that does not go up.
* `Searched`: A path that the search can look at.
* `LoadsNearest`: What one might expect of any path.

## Theorems

* `followFrom_straight`: Where steps lead that do not go up.
* `Searched.parent`: The parent can be looked at as well.
* `Searched.follow_fileIn`: Where the settings file of a directory is looked for.
* `findRoot?_nearest`: What the search finds.
* `fromDirectory_spelling`: Spellings of a directory that come to the same.
* `fromDirectory_nearest`: Which settings are loaded for a directory.
* `fromDirectory_dots`: What does not hold of all paths.
-/

namespace PrintBridge

/-- The name in a step. -/
def Component.name? : Component → Option Bytes
  | .name bytes => some bytes
  | _ => none

/-- The names in steps. -/
def Path.namesOf (steps : List Component) : Place := steps.filterMap Component.name?

/-- The names that a path goes down by. -/
def Path.names (p : Path) : Place := namesOf p.steps

namespace FileTree

variable (t : FileTree)

/-- Whatever stands in a tree stands in a directory. -/
def Grown : Prop :=
  ∀ place name, (t.nodeAt? (place ++ [name])).isSome → t.nodeAt? place = some .directory

/-- The name of the settings file, as it stands in a tree. -/
def settingsName : Bytes := Utf8.encode settingsFile

/-- A place with a settings file in it, usable or not. -/
def HasSettings (place : Place) : Prop := (t.nodeAt? (place ++ [settingsName])).isSome

instance (place : Place) : Decidable (t.HasSettings place) :=
  inferInstanceAs (Decidable (_ = true))

/-- The lowest place with a settings file from a place up to a base. -/
structure NearestFrom (base place found : Place) : Prop where
  below : base <+: found
  above : found <+: place
  has : t.HasSettings found
  lowest : ∀ other, base <+: other → other <+: place → t.HasSettings other → other <+: found

variable {t}

/-- A place with a settings file is the lowest one up from itself. -/
theorem NearestFrom.here {base place : Place} (hbase : base <+: place)
    (hhas : t.HasSettings place) : t.NearestFrom base place place :=
  ⟨hbase, List.prefix_refl _, hhas, fun _ _ habove _ => habove⟩

theorem NearestFrom.unique {base place found other : Place} (h : t.NearestFrom base place found)
    (hother : t.NearestFrom base place other) : found = other :=
  (hother.lowest found h.below h.above h.has).eq_of_length_le
    (h.lowest other hother.below hother.above hother.has).length_le

/-- A tree is grown if its files are not on the way to anything. -/
theorem grown_of_entries
    (h : ∀ e ∈ t.entries, e.2 ≠ .directory → ∀ other ∈ t.entries, e.1 <+: other.1 →
      e.1 = other.1) : t.Grown := by
  intro place name hsome
  -- Something was given at the place or below it.
  have hbelow : ∃ other ∈ t.entries, place ++ [name] <+: other.1 := by
    unfold nodeAt? at hsome
    split at hsome
    · rename_i e he
      have hgiven := List.find?_some he
      exact ⟨e, List.mem_of_find?_eq_some he, eq_of_beq hgiven ▸ List.prefix_refl _⟩
    · split at hsome
      · rename_i hgiven
        rcases hgiven with hnil | hany
        · exact absurd hnil (List.append_ne_nil_of_right_ne_nil _ (List.cons_ne_nil _ _))
        · rcases List.any_eq_true.1 hany with ⟨other, hmem, hfront⟩
          exact ⟨other, hmem, List.isPrefixOf_iff_prefix.1 hfront⟩
      · exact absurd hsome (by simp only [Option.isSome_none, Bool.false_eq_true,
          not_false_eq_true])
  rcases hbelow with ⟨other, hother, hfront⟩
  have habove : place <+: other.1 := (List.prefix_append _ _).trans hfront
  unfold nodeAt?
  split
  · rename_i e he
    have hgiven := List.find?_some he
    have hplace : e.1 = place := eq_of_beq hgiven
    by_cases hdirectory : e.2 = .directory
    · rw [hdirectory]
    · have heq := h e (List.mem_of_find?_eq_some he) hdirectory other hother (hplace ▸ habove)
      rw [← heq, hplace] at hfront
      have hlength := hfront.length_le
      rw [List.length_append, List.length_singleton] at hlength
      omega
  · rw [if_pos (.inr (List.any_eq_true.2 ⟨other, hother, List.isPrefixOf_iff_prefix.2 habove⟩))]

theorem Grown.directory_above (hgrown : t.Grown) {above place : Place} (h : above <+: place)
    (hplace : t.nodeAt? place = some .directory) : t.nodeAt? above = some .directory := by
  rcases h with ⟨rest, rfl⟩
  induction rest using List.reverseRecOn with
  | nil => rwa [List.append_nil] at hplace
  | append_singleton rest name ih =>
      rw [← List.append_assoc] at hplace
      exact ih (hgrown _ name (by rw [hplace, Option.isSome_some]))

theorem followFrom_append (here : Place) (front back : List Bytes) :
    t.followFrom here (front ++ back) =
      (t.followFrom here front).bind fun next => t.followFrom next back := by
  induction front generalizing here with
  | nil => rfl
  | cons segment front ih =>
      rw [List.cons_append, followFrom, followFrom]
      cases t.enter here segment with
      | error _ => rfl
      | ok next => exact ih next

theorem enter_of_ok {here next : Place} {segment : Bytes} (h : t.enter here segment = .ok next) :
    t.nodeAt? here = some .directory := by
  unfold enter at h
  split at h
  · assumption
  · exact absurd h (by simp only [reduceCtorEq, not_false_eq_true])
  · exact absurd h (by simp only [reduceCtorEq, not_false_eq_true])

theorem enter_nothing {here : Place} {segment : Bytes} (h : t.nodeAt? here = some .directory)
    (hc : Path.componentOf? segment = none) : t.enter here segment = .ok here := by
  simp only [enter, h, hc]

theorem enter_name {here : Place} {segment : Bytes} (h : t.nodeAt? here = some .directory)
    (hc : Path.componentOf? segment = some (.name segment)) :
    t.enter here segment =
      if nameLimit < segment.length then .error .nameTooLong
      else if (t.nodeAt? (here ++ [segment])).isSome then .ok (here ++ [segment])
      else .error .notFound := by
  simp only [enter, h, hc]

/-- Steps that do not go up lead down by their names, all of which are short
    enough. -/
theorem followFrom_straight {here place : Place} {segments : List Bytes}
    (hup : .up ∉ segments.filterMap Path.componentOf?)
    (h : t.followFrom here segments = .ok place) :
    place = here ++ Path.namesOf (segments.filterMap Path.componentOf?) ∧
      ∀ name ∈ Path.namesOf (segments.filterMap Path.componentOf?), name.length ≤ nameLimit := by
  -- A segment that says nothing stays, one that is a name goes down, and none goes
  -- up.
  induction segments generalizing here with
  | nil =>
      injection h with h
      exact ⟨by rw [h]; exact (List.append_nil _).symm, fun _ hmem => (nomatch hmem)⟩
  | cons segment rest ih =>
      rw [followFrom] at h
      rcases hnext : t.enter here segment with e | next
      · rw [hnext] at h
        exact absurd h (by simp only [Except.bind, reduceCtorEq, not_false_eq_true])
      · have hdirectory := enter_of_ok hnext
        rw [hnext] at h
        rcases Path.componentOf?_cases segment with hc | hc | hc
        · rw [List.filterMap_cons_none hc] at hup ⊢
          rw [enter_nothing hdirectory hc] at hnext
          injection hnext with hnext
          exact ih hup (hnext ▸ h)
        · rw [List.filterMap_cons_some hc] at hup
          exact absurd List.mem_cons_self hup
        · rw [List.filterMap_cons_some hc] at hup ⊢
          rw [enter_name hdirectory hc] at hnext
          split at hnext
          · exact absurd hnext (by simp only [reduceCtorEq, not_false_eq_true])
          · rename_i hlength
            split at hnext
            · injection hnext with hnext
              rcases ih (fun hmem => hup (List.mem_cons_of_mem _ hmem)) (hnext ▸ h) with
                ⟨hplace, hshort⟩
              refine ⟨by rw [hplace, List.append_assoc]; rfl, fun name hmem => ?_⟩
              rcases List.mem_cons.1 hmem with hname | hname
              · exact hname ▸ Nat.le_of_not_lt hlength
              · exact hshort name hname
            · exact absurd hnext (by simp only [reduceCtorEq, not_false_eq_true])

/-- Where the way down is there, steps that do not go up lead down it. -/
theorem followFrom_open {here : Place} {segments : List Bytes}
    (hup : .up ∉ segments.filterMap Path.componentOf?)
    (hdirectories : ∀ above, above <+: Path.namesOf (segments.filterMap Path.componentOf?) →
      t.nodeAt? (here ++ above) = some .directory)
    (hshort : ∀ name ∈ Path.namesOf (segments.filterMap Path.componentOf?),
      name.length ≤ nameLimit) :
    t.followFrom here segments =
      .ok (here ++ Path.namesOf (segments.filterMap Path.componentOf?)) := by
  induction segments generalizing here with
  | nil => rw [followFrom]; exact congrArg _ (List.append_nil _).symm
  | cons segment rest ih =>
      have hhere : t.nodeAt? here = some .directory := by
        simpa only [List.append_nil] using hdirectories [] List.nil_prefix
      rw [followFrom]
      rcases Path.componentOf?_cases segment with hc | hc | hc
      · rw [List.filterMap_cons_none hc] at hup hdirectories hshort ⊢
        rw [enter_nothing hhere hc]
        exact ih hup hdirectories hshort
      · rw [List.filterMap_cons_some hc] at hup
        exact absurd List.mem_cons_self hup
      · rw [List.filterMap_cons_some hc] at hup hdirectories hshort ⊢
        have hnext : t.nodeAt? (here ++ [segment]) = some .directory :=
          hdirectories [segment] ((List.prefix_append [segment] _))
        rw [enter_name hhere hc, if_neg (Nat.not_lt.2 (hshort segment List.mem_cons_self)),
          hnext, Option.isSome_some, if_pos rfl, Except.bind]
        rw [ih (fun hmem => hup (List.mem_cons_of_mem _ hmem)) (fun above habove => ?_)
          (fun name hmem => hshort name (List.mem_cons_of_mem _ hmem)), List.append_assoc]
        · rfl
        · rw [List.append_assoc]
          exact hdirectories _ ((List.prefix_append_right_inj [segment]).2 habove)

end FileTree

open FileTree (settingsName)

namespace Path

/-- Where a path sets out. -/
def base (working : Place) (p : Path) : Place := if p.isAbsolute then [] else working

/-- Where a path leads that does not go up. -/
def place (working : Place) (p : Path) : Place := p.base working ++ p.names

variable {p q : Path}

theorem base_parent (working : Place) (h : p.parent? = some q) :
    q.base working = p.base working := by
  rw [base, base, isAbsolute_parent h]

theorem step_cases {c : Component} (h : c ∈ p.steps) : c = .up ∨ ∃ name, c = .name name := by
  rcases List.mem_filterMap.1 h with ⟨segment, -, hc⟩
  rcases componentOf?_cases segment with hnone | hup | hname
  · rw [hnone] at hc
    exact absurd hc (by simp only [reduceCtorEq, not_false_eq_true])
  · rw [hup] at hc
    exact .inl (Option.some.inj hc).symm
  · rw [hname] at hc
    exact .inr ⟨segment, (Option.some.inj hc).symm⟩

/-- The parent of a path that does not go up leads to the directory above. -/
theorem names_parent (hup : .up ∉ p.steps) (h : p.parent? = some q) :
    q.names = p.names.dropLast := by
  rw [names, names, steps_parent h]
  rcases List.eq_nil_or_concat p.steps with hnil | ⟨steps, last, hlast⟩
  · rw [hnil]
    rfl
  · rw [List.concat_eq_append] at hlast
    have hmem : last ∈ p.steps := hlast ▸ List.mem_append_right _ List.mem_cons_self
    rcases step_cases hmem with rfl | ⟨name, rfl⟩
    · exact absurd hmem hup
    · rw [hlast, List.dropLast_concat, namesOf, namesOf, List.filterMap_append]
      exact (List.dropLast_concat).symm

end Path

namespace Settings

theorem fileIn_bytes (directory : Path) :
    ∃ slashes, (slashes = [] ∨ slashes = [Path.slash]) ∧
      (directory.bytes = [] → slashes = []) ∧
      (fileIn directory).bytes = directory.bytes ++ (slashes ++ settingsName) := by
  have hrelative : ¬ ((Path.ofText settingsFile).isAbsolute = true) := by decide
  rw [fileIn, Path.join, if_neg hrelative]
  split
  · exact ⟨[], .inl rfl, fun _ => rfl, rfl⟩
  · rename_i hopen
    exact ⟨[Path.slash], .inr rfl, fun hnil => absurd (.inl hnil) hopen, rfl⟩

theorem fileIn_ne_nil (directory : Path) : (fileIn directory).bytes ≠ [] := by
  rcases fileIn_bytes directory with ⟨slashes, -, -, hbytes⟩
  rw [hbytes, ← List.append_assoc]
  exact List.append_ne_nil_of_right_ne_nil _ (by decide)

theorem isAbsolute_fileIn (directory : Path) :
    (fileIn directory).isAbsolute = directory.isAbsolute := by
  rcases fileIn_bytes directory with ⟨slashes, -, hnil, hbytes⟩
  rw [Path.isAbsolute, hbytes, Path.isAbsolute]
  rcases hd : directory.bytes with _ | ⟨b, rest⟩
  · rw [hnil hd]
    decide
  · rfl

theorem no_nul_fileIn {directory : Path} (h : (0 : UInt8) ∉ directory.bytes) :
    (0 : UInt8) ∉ (fileIn directory).bytes := by
  rcases fileIn_bytes directory with ⟨slashes, hslashes, -, hbytes⟩
  rw [hbytes, List.mem_append, not_or]
  refine ⟨h, ?_⟩
  rcases hslashes with rfl | rfl
  · decide
  · decide

/-- The settings file of a parent has no longer a path. -/
theorem fileIn_length_le {p q : Path} (h : p.parent? = some q) :
    (fileIn q).bytes.length ≤ (fileIn p).bytes.length := by
  have hlt := Path.parent?_length_lt h
  rcases fileIn_bytes p with ⟨sp, -, -, hp⟩
  rcases fileIn_bytes q with ⟨sq, hsq, -, hq⟩
  have hone : sq.length ≤ 1 := by
    rcases hsq with rfl | rfl
    · exact Nat.zero_le _
    · exact Nat.le_refl _
  rw [hp, hq]
  simp only [List.length_append]
  omega

end Settings

open Settings (fileIn findRoot?)

/-- A path to an existing directory that does not go up, and that is short enough
    for a settings file behind it. -/
structure LeadsTo (t : FileTree) (working : Place) (p : Path) (place : Place) : Prop where
  straight : .up ∉ p.components
  follow : t.follow working p = .ok place
  directory : t.nodeAt? place = some .directory
  short : (fileIn p).bytes.length < FileTree.pathLimit

/-- A path that the search can look at: it does not go up, and all that it goes
    through is there. -/
structure Searched (t : FileTree) (working : Place) (q : Path) : Prop where
  straight : .up ∉ q.steps
  no_nul : (0 : UInt8) ∉ q.bytes
  short : (fileIn q).bytes.length < FileTree.pathLimit
  names_short : ∀ name ∈ q.names, name.length ≤ FileTree.nameLimit
  directories : ∀ above, above <+: q.names →
    t.nodeAt? (q.base working ++ above) = some .directory

namespace Searched

variable {t : FileTree} {working : Place} {p q : Path}

/-- The parent can be looked at as well. -/
theorem parent (h : Searched t working p) (hq : p.parent? = some q) : Searched t working q := by
  have hnames := Path.names_parent h.straight hq
  refine ⟨fun hmem => ?_, fun hmem => ?_, ?_, fun name hmem => ?_, fun above habove => ?_⟩
  · rw [Path.steps_parent hq] at hmem
    exact h.straight (List.dropLast_subset _ hmem)
  · exact h.no_nul ((Path.parent_front hq).subset hmem)
  · exact Nat.lt_of_le_of_lt (Settings.fileIn_length_le hq) h.short
  · rw [hnames] at hmem
    exact h.names_short name (List.dropLast_subset _ hmem)
  · rw [hnames] at habove
    rw [Path.base_parent working hq]
    exact h.directories above (habove.trans (List.dropLast_prefix _))

/-- The settings file is looked for where the steps lead. -/
theorem follow_fileIn (h : Searched t working q) :
    t.follow working (fileIn q) =
      if t.HasSettings (q.place working) then .ok (q.place working ++ [settingsName])
      else .error .notFound := by
  have hname : Path.slash ∉ settingsName := by decide
  -- The segments in front are the way to the directory, and it is open.
  rcases Path.segments_join q hname with ⟨front, hsegments, hfront⟩
  have hbase : (if (fileIn q).isAbsolute then [] else working) = q.base working := by
    rw [Settings.isAbsolute_fileIn, Path.base]
  have hopen : t.followFrom (q.base working) front =
      .ok (q.base working ++ Path.namesOf (front.filterMap Path.componentOf?)) := by
    apply FileTree.followFrom_open
    · rw [hfront]
      exact h.straight
    · rw [hfront]
      exact h.directories
    · rw [hfront]
      exact h.names_short
  rw [hfront] at hopen
  have hplace : t.nodeAt? (q.place working) = some .directory :=
    h.directories q.names (List.prefix_refl _)
  have hlimit : ¬ FileTree.nameLimit < settingsName.length := by decide
  rw [FileTree.follow, if_neg (Settings.fileIn_ne_nil q),
    if_neg (Settings.no_nul_fileIn h.no_nul), if_neg (Nat.not_le.2 h.short), hbase,
    show (fileIn q).segments = front ++ [settingsName] from hsegments, FileTree.followFrom_append,
    hopen, Except.bind, FileTree.followFrom]
  change (t.enter (q.place working) settingsName).bind _ = _
  rw [FileTree.enter_name hplace (by decide), if_neg hlimit]
  by_cases hhas : t.HasSettings (q.place working)
  · have hsome : (t.nodeAt? (q.place working ++ [settingsName])).isSome := hhas
    rw [if_pos hhas, if_pos hsome]
    rfl
  · have hnone : ¬ (t.nodeAt? (q.place working ++ [settingsName])).isSome := hhas
    rw [if_neg hhas, if_neg hnone]
    rfl

theorem hasEntry_iff (h : Searched t working q) :
    (t.view working).hasEntry (fileIn q) = true ↔ t.HasSettings (q.place working) := by
  rw [Files.hasEntry, FileTree.view]
  simp only [h.follow_fileIn]
  by_cases hhas : t.HasSettings (q.place working)
  · rw [if_pos hhas]
    simp only [Option.isSome_map, hhas, iff_true]
    exact hhas
  · rw [if_neg hhas]
    simp only [Option.isSome_none, Bool.false_eq_true, hhas]

/-- An existing directory can be looked at, by a path that does not go up. -/
theorem of_leadsTo {place : Place} (hgrown : t.Grown) (h : LeadsTo t working p place) :
    Searched t working p ∧ place = p.place working := by
  rcases h with ⟨hup, hstart, hplace, hshort⟩
  rw [← Path.up_mem_steps_iff] at hup
  -- A path that can be followed is none of those that are refused by their text.
  unfold FileTree.follow at hstart
  split at hstart
  · exact absurd hstart (by simp only [reduceCtorEq, not_false_eq_true])
  · split at hstart
    · exact absurd hstart (by simp only [reduceCtorEq, not_false_eq_true])
    · rename_i hnul
      split at hstart
      · exact absurd hstart (by simp only [reduceCtorEq, not_false_eq_true])
      · rcases FileTree.followFrom_straight hup hstart with ⟨heq, hnames⟩
        refine ⟨⟨hup, hnul, hshort, hnames, fun above habove => ?_⟩, heq⟩
        refine hgrown.directory_above ?_ hplace
        rw [heq]
        exact (List.prefix_append_right_inj _).2 habove

end Searched

variable {t : FileTree} {working : Place} {p : Path}

theorem findRoot?_eq (files : Files) (p : Path) :
    findRoot? files p =
      if files.hasEntry (fileIn p) then some p else p.parent?.bind (findRoot? files) := by
  rw [findRoot?, Path.ancestors]
  split
  · rename_i hnone
    rw [hnone, Option.bind_none, List.find?_cons, List.find?_nil]
    cases files.hasEntry (fileIn p) <;> rfl
  · rename_i q hq
    have hparent : p.parent?.bind (findRoot? files) = findRoot? files q := by
      rw [hq, Option.bind_some]
    rw [hparent, List.find?_cons, findRoot?]
    cases files.hasEntry (fileIn p) <;> rfl

theorem place_parent_above {q : Path} (hup : .up ∉ p.steps) (hq : p.parent? = some q) :
    q.place working <+: p.place working := by
  rw [Path.place, Path.place, Path.base_parent working hq, Path.names_parent hup hq,
    List.prefix_append_right_inj]
  exact List.dropLast_prefix _

/-- Between a path and its parent there is no place. -/
theorem eq_or_prefix_parent {q : Path} {other : Place} (hup : .up ∉ p.steps)
    (hq : p.parent? = some q) (h : other <+: p.place working) :
    other = p.place working ∨ other <+: q.place working := by
  rw [Path.place, Path.place, Path.base_parent working hq, Path.names_parent hup hq] at *
  rcases List.eq_nil_or_concat p.names with hnil | ⟨names, last, hlast⟩
  · right
    rwa [hnil] at h ⊢
  · rw [List.concat_eq_append] at hlast
    rw [hlast, List.dropLast_concat]
    rwa [hlast, ← List.append_assoc, List.prefix_concat_iff, List.append_assoc] at h

/-- What the search finds: the lowest place with a settings file up to where the
    path sets out, if there is one. -/
theorem findRoot?_nearest (h : Searched t working p) :
    (findRoot? (t.view working) p = none ∧
        ∀ place, p.base working <+: place → place <+: p.place working → ¬ t.HasSettings place) ∨
      ∃ d, findRoot? (t.view working) p = some d ∧ Searched t working d ∧
        t.NearestFrom (p.base working) (p.place working) (d.place working) := by
  -- By induction on the parents: the search ends at once, or it is the search
  -- of the parent.
  fun_induction Path.ancestors p with
  | case1 p hnone =>
      rw [findRoot?_eq, hnone, Option.bind_none]
      by_cases hhas : t.HasSettings (p.place working)
      · exact .inr ⟨p, if_pos (h.hasEntry_iff.2 hhas), h, .here (List.prefix_append _ _) hhas⟩
      · refine .inl ⟨if_neg fun hentry => hhas (h.hasEntry_iff.1 hentry), ?_⟩
        intro place hbelow habove hplace
        refine hhas ?_
        -- Without a parent the path leads nowhere from where it sets out.
        have hstay : p.place working = p.base working := by
          rw [Path.place, Path.names, Path.steps_of_no_parent hnone]
          exact List.append_nil _
        rw [hstay] at habove ⊢
        rwa [hbelow.eq_of_length_le habove.length_le]
  | case2 p q hq _ ih =>
      rw [findRoot?_eq, hq, Option.bind_some]
      by_cases hhas : t.HasSettings (p.place working)
      · exact .inr ⟨p, if_pos (h.hasEntry_iff.2 hhas), h, .here (List.prefix_append _ _) hhas⟩
      · rw [if_neg fun hentry => hhas (h.hasEntry_iff.1 hentry), ← Path.base_parent working hq]
        rcases ih (h.parent hq) with ⟨hfind, hnowhere⟩ | ⟨d, hfind, hd, hnearest⟩
        · refine .inl ⟨hfind, fun place hbelow habove hplace => ?_⟩
          rcases eq_or_prefix_parent h.straight hq habove with rfl | habove
          · exact hhas hplace
          · exact hnowhere place hbelow habove hplace
        · refine .inr ⟨d, hfind, hd, hnearest.below, ?_, hnearest.has, ?_⟩
          · exact hnearest.above.trans (place_parent_above h.straight hq)
          · intro other hbelow habove hother
            rcases eq_or_prefix_parent h.straight hq habove with rfl | habove
            · exact absurd hother hhas
            · exact hnearest.lowest other hbelow habove hother

open Settings (fromDirectory readFile)

/-- Loading for a directory takes the file that the search finds. -/
theorem fromDirectory_cases {place : Place} (o : Overrides) (hgrown : t.Grown)
    (hstart : LeadsTo t working p place) :
    (∃ d found, t.NearestFrom (p.base working) place found ∧
        t.follow working (fileIn d) = .ok (found ++ [settingsName]) ∧
        fromDirectory (t.view working) o p = do
          let project ← readFile (t.view working) (fileIn d)
          return ⟨← o.apply project, some d⟩) ∨
      ((∀ found, p.base working <+: found → found <+: place → ¬ t.HasSettings found) ∧
        fromDirectory (t.view working) o p = do return ⟨← o.apply {}, none⟩) := by
  rcases Searched.of_leadsTo hgrown hstart with ⟨h, rfl⟩
  rcases findRoot?_nearest h with ⟨hfind, hnowhere⟩ | ⟨d, hfind, hd, hnearest⟩
  · refine .inr ⟨hnowhere, ?_⟩
    rw [fromDirectory, hfind]
    rfl
  · refine .inl ⟨d, d.place working, hnearest, ?_, by rw [fromDirectory, hfind]⟩
    rw [hd.follow_fileIn, if_pos hnearest.has]

/-- The path of a settings file shows in the failures only. -/
theorem readFile_toOption (files : Files) (file : Path) :
    (readFile files file).toOption =
      (files.readText file).toOption.bind fun content =>
        (ProjectSettings.ofText content).toOption.bind fun project =>
          (project.validate.map fun _ => project).toOption := by
  simp only [readFile, bind, Except.bind, pure, Except.pure]
  cases files.readText file with
  | error reason => cases reason <;> rfl
  | ok content =>
      simp only [Except.toOption, Option.bind_some]
      cases ProjectSettings.ofText content with
      | error _ => rfl
      | ok project =>
          simp only [Option.bind_some]
          cases project.validate <;> rfl

theorem readFile_of_follow_eq {a b : Path} (h : t.follow working a = t.follow working b) :
    (readFile (t.view working) a).toOption = (readFile (t.view working) b).toOption := by
  have hread : (t.view working).readText a = (t.view working).readText b := by
    rw [Files.readText, FileTree.view, Files.readText]
    simp only [h]
  rw [readFile_toOption, readFile_toOption, hread]

theorem project_toOption (o : Overrides) (read : Except SettingsError ProjectSettings)
    (root : Option Path) :
    ((do let project ← read; return ⟨← o.apply project, root⟩ :
        Except SettingsError Settings).toOption.map Settings.project) =
      read.toOption.bind fun project => (o.apply project).toOption := by
  cases read with
  | error _ => rfl
  | ok project =>
      simp only [bind, Except.bind, Except.toOption, Option.bind_some]
      cases o.apply project <;> rfl

/-- What is loaded from a file tells where the file was found. -/
theorem root_of_loaded {o : Overrides} {read : Except SettingsError ProjectSettings}
    {root : Option Path} {s : Settings}
    (h : (do let project ← read; return ⟨← o.apply project, root⟩ :
      Except SettingsError Settings).toOption = some s) : s.root = root := by
  rcases bind_eq_ok_iff.1 (toOption_eq_some_iff.1 h) with ⟨project, -, happlied⟩
  rcases bind_eq_ok_iff.1 happlied with ⟨applied, -, hs⟩
  exact Except.ok.inj hs ▸ rfl

/-- Two spellings of one directory that set out from the same place give the
    same settings. -/
theorem fromDirectory_spelling {q : Path} {place : Place} (o : Overrides) (hgrown : t.Grown)
    (hp : LeadsTo t working p place) (hq : LeadsTo t working q place)
    (hbase : p.base working = q.base working) :
    (fromDirectory (t.view working) o p).toOption.map Settings.project =
      (fromDirectory (t.view working) o q).toOption.map Settings.project := by
  rcases fromDirectory_cases o hgrown hp with ⟨d, found, hnear, hd, hload⟩ | ⟨hnone, hload⟩
  · rcases fromDirectory_cases o hgrown hq with ⟨d', found', hnear', hd', hload'⟩ | ⟨hnone', -⟩
    · rw [← hbase] at hnear'
      have hfound := hnear.unique hnear'
      have hfile := readFile_of_follow_eq (hd.trans (hfound ▸ hd'.symm))
      rw [hload, hload', project_toOption, project_toOption, hfile]
    · exact absurd hnear.has (hnone' found (hbase ▸ hnear.below) hnear.above)
  · rcases fromDirectory_cases o hgrown hq with ⟨d', found', hnear', -, -⟩ | ⟨-, hload'⟩
    · exact absurd hnear'.has (hnone found' (hbase ▸ hnear'.below) hnear'.above)
    · rw [hload, hload']

/-- Which settings are loaded for an existing directory, by a path that does not
    go up: those of the lowest directory with a settings file up to where the
    path sets out, and the defaults if there is none. So only this matters of how
    the path is spelled. -/
theorem fromDirectory_nearest {place : Place} (o : Overrides) (hgrown : t.Grown)
    (hstart : LeadsTo t working p place) :
    ((∃ d found, t.NearestFrom (p.base working) place found ∧
        t.follow working (fileIn d) = .ok (found ++ [settingsName]) ∧
        fromDirectory (t.view working) o p = do
          let project ← readFile (t.view working) (fileIn d)
          return ⟨← o.apply project, some d⟩) ∨
      ((∀ found, p.base working <+: found → found <+: place → ¬ t.HasSettings found) ∧
        fromDirectory (t.view working) o p = do return ⟨← o.apply {}, none⟩)) ∧
      ∀ q : Path, LeadsTo t working q place → p.base working = q.base working →
        (fromDirectory (t.view working) o p).toOption.map Settings.project =
          (fromDirectory (t.view working) o q).toOption.map Settings.project :=
  ⟨fromDirectory_cases o hgrown hstart, fun _ hq hbase =>
    fromDirectory_spelling o hgrown hstart hq hbase⟩

/-- A settings file for the level, in a directory with another one. -/
def nestedTree : FileTree :=
  ⟨[([Utf8.encode "a", settingsName], .file (Utf8.encode "[log]\nlevel=\"off\"")),
    ([Utf8.encode "a", Utf8.encode "b"], .directory)]⟩

theorem nestedTree_grown : nestedTree.Grown := FileTree.grown_of_entries (by decide +kernel)

/-- The settings file is in the directory above. -/
theorem fromDirectory_nearest_above :
    ∃ d found, nestedTree.NearestFrom [] [Utf8.encode "a", Utf8.encode "b"] found ∧
      nestedTree.follow [] (fileIn d) = .ok (found ++ [settingsName]) := by
  have hhas : nestedTree.HasSettings [Utf8.encode "a"] := by decide +kernel
  have hstart : nestedTree.follow [] (Path.ofText "/a//b/.") =
      .ok [Utf8.encode "a", Utf8.encode "b"] := by decide +kernel
  have hleads : LeadsTo nestedTree [] (Path.ofText "/a//b/.") [Utf8.encode "a", Utf8.encode "b"] :=
    ⟨by decide +kernel, hstart, by decide +kernel, by decide +kernel⟩
  rcases (fromDirectory_nearest {} nestedTree_grown hleads).1 with
    ⟨d, found, hnearest, hfile, -⟩ | ⟨hnowhere, -⟩
  · exact ⟨d, found, hnearest, hfile⟩
  · exact absurd hhas (hnowhere _ List.nil_prefix ⟨[Utf8.encode "b"], rfl⟩)

/-- What one might expect of any path to a directory: of the directories above it
    in the tree, up to the root, the lowest with a settings file gives the settings,
    and the defaults are used if there is none. -/
def LoadsNearest (t : FileTree) (working : Place) (o : Overrides) (p : Path) (place : Place) :
    Prop :=
  (∃ d found, t.NearestFrom [] place found ∧
      t.follow working (fileIn d) = .ok (found ++ [settingsName]) ∧
      fromDirectory (t.view working) o p = do
        let project ← readFile (t.view working) (fileIn d)
        return ⟨← o.apply project, some d⟩) ∨
    ((∀ found, found <+: place → ¬ t.HasSettings found) ∧
      fromDirectory (t.view working) o p = do return ⟨← o.apply {}, none⟩)

/-- This is not so where two dots are dropped like a name and the search goes down, not
    even for paths that set out from the root. It is not so either for paths that do not
    go up, since a relative one ends the search early, and so two spellings of one
    directory can give different settings. -/
theorem fromDirectory_dots :
    (¬ ∀ (t : FileTree) (working place : Place) (o : Overrides) (p : Path), t.Grown →
        t.follow working p = .ok place → t.nodeAt? place = some .directory →
        (fileIn p).bytes.length < FileTree.pathLimit → p.base working = [] →
          LoadsNearest t working o p place) ∧
      (¬ ∀ (t : FileTree) (working place : Place) (o : Overrides) (p : Path), t.Grown →
        LeadsTo t working p place → LoadsNearest t working o p place) ∧
      ¬ ∀ (t : FileTree) (working place : Place) (o : Overrides) (p q : Path), t.Grown →
        LeadsTo t working p place → LeadsTo t working q place →
          (fromDirectory (t.view working) o p).toOption.map Settings.project =
            (fromDirectory (t.view working) o q).toOption.map Settings.project := by
  have hhas : nestedTree.HasSettings [Utf8.encode "a"] := by decide +kernel
  have hdot : LeadsTo nestedTree [Utf8.encode "a", Utf8.encode "b"] (Path.ofText ".")
      [Utf8.encode "a", Utf8.encode "b"] :=
    ⟨by decide +kernel, by decide +kernel, by decide +kernel, by decide +kernel⟩
  -- The search from a dot ends where it begins, although the file is one directory above.
  have hnone : (fromDirectory (nestedTree.view [Utf8.encode "a", Utf8.encode "b"]) {}
      (Path.ofText ".")).toOption = some ⟨{}, none⟩ := by decide +kernel
  refine ⟨fun hlaw => ?_, fun hlaw => ?_, fun hlaw => ?_⟩
  · -- The parent of the path is below the root, and the root itself has no file.
    have hdown : (fromDirectory (nestedTree.view []) {} (Path.ofText "a/..")).toOption =
        some ⟨{ log := some ⟨some "off"⟩ }, some (Path.ofText "a")⟩ := by decide +kernel
    have hbare : ¬ nestedTree.HasSettings [] := by decide +kernel
    rcases hlaw nestedTree [] [] {} (Path.ofText "a/..") nestedTree_grown (by decide +kernel)
        (by decide +kernel) (by decide +kernel) (by decide +kernel) with
      ⟨d, found, hnearest, -, -⟩ | ⟨-, hload⟩
    · have hroot : found = [] := List.prefix_nil.1 hnearest.above
      exact hbare (hroot ▸ hnearest.has)
    · rw [hload] at hdown
      exact absurd hdown (by decide +kernel)
  · rcases hlaw nestedTree _ _ {} (Path.ofText ".") nestedTree_grown hdot with
      ⟨d, found, -, -, hload⟩ | ⟨hnowhere, -⟩
    · rw [hload] at hnone
      exact absurd (root_of_loaded hnone) (Option.some_ne_none d).symm
    · exact hnowhere _ ⟨[Utf8.encode "b"], rfl⟩ hhas
  · have hslash : LeadsTo nestedTree [Utf8.encode "a", Utf8.encode "b"] (Path.ofText "/a/b")
        [Utf8.encode "a", Utf8.encode "b"] :=
      ⟨by decide +kernel, by decide +kernel, by decide +kernel, by decide +kernel⟩
    have hfound : (fromDirectory (nestedTree.view [Utf8.encode "a", Utf8.encode "b"]) {}
        (Path.ofText "/a/b")).toOption =
          some ⟨{ log := some ⟨some "off"⟩ }, some (Path.ofText "/a")⟩ := by decide +kernel
    have hsame := hlaw nestedTree _ _ {} _ _ nestedTree_grown hdot hslash
    rw [hnone, hfound] at hsame
    exact absurd hsame (by decide +kernel)

end PrintBridge
