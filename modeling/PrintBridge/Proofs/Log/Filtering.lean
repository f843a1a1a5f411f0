import Mathlib.Data.List.Induction
import Mathlib.Data.List.Nodup
import PrintBridge.Log.Filter
import PrintBridge.Proofs.Pattern.Searching

/-!
# Filtering

Which records a filter lets through, told without the order in which it looks.

A filter sorts its directives and takes the last that fits. What that comes to is told
by `Decides`, from the directives as they stand: no other that fits has a longer name,
and none with a name as long stands behind. Since sorting leaves directives with names
of one length as they are, the two agree.

The directives of a filter are those that the specifications say, without those that a
later one takes the place of. The pattern is that of the last specification alone. With
what it means for a pattern to occur in a text, `hears_ofSpecs_iff` says of every list
of specifications which records are written.

## Main definitions

* `Decides`: The directive that decides about a target.
* `Lasting`: A directive that no later one takes the place of.
* `said`: All that several specifications say.

## Theorems

* `exists_decides`: Where a directive fits, one decides.
* `directive?_eq_some_iff`: The directive that is found is the one that decides.
* `mem_insert_iff`: A directive takes the place of the one with its name.
* `mem_directives_iff`: Which directives a filter has.
* `hears_ofSpecs_iff`: Which records are written.
-/

namespace PrintBridge

namespace Log

variable {ds : List Directive} {target : String} {d e : Directive}

/-- The directive that decides about a target, among several: of those that fit it has the
    longest name, and of these it is the last. -/
structure Decides (ds : List Directive) (target : String) (d : Directive) : Prop where
  fits : d.fits target = true
  last : ∃ before behind, ds = before ++ d :: behind ∧
    (∀ e ∈ before, e.fits target = true → e.reach ≤ d.reach) ∧
      ∀ e ∈ behind, e.fits target = true → e.reach < d.reach

/-- No directive that fits has a longer name than the one that decides. -/
theorem Decides.reach_le (h : Decides ds target d) (he : e ∈ ds) (hfits : e.fits target = true) :
    e.reach ≤ d.reach := by
  rcases h.last with ⟨before, behind, rfl, hbefore, hbehind⟩
  rcases List.mem_append.1 he with he | he
  · exact hbefore e he hfits
  · rcases List.mem_cons.1 he with rfl | he
    · exact Nat.le_refl _
    · exact Nat.le_of_lt (hbehind e he hfits)

/-- Where a directive fits, one decides. -/
theorem exists_decides (hfits : ∃ e ∈ ds, e.fits target = true) : ∃ d, Decides ds target d := by
  induction ds with
  | nil =>
      rcases hfits with ⟨e, he, -⟩
      exact absurd he List.not_mem_nil
  | cons first rest ih =>
      by_cases hrest : ∃ e ∈ rest, e.fits target = true
      · rcases ih hrest with ⟨d, hd⟩
        -- The first directive decides only if its name is longer: a later one wins a tie.
        by_cases hlonger : first.fits target = true ∧ d.reach < first.reach
        · refine ⟨first, hlonger.1, [], rest, rfl, fun _ he => absurd he List.not_mem_nil, ?_⟩
          exact fun e he hfits => Nat.lt_of_le_of_lt (hd.reach_le he hfits) hlonger.2
        · rcases hd.last with ⟨before, behind, rfl, hbefore, hbehind⟩
          refine ⟨d, hd.fits, first :: before, behind, rfl, ?_, hbehind⟩
          refine List.forall_mem_cons.2 ⟨fun hfirst => ?_, hbefore⟩
          exact Nat.le_of_not_lt fun hlt => hlonger ⟨hfirst, hlt⟩
      · rcases hfits with ⟨e, he, hfits⟩
        rcases List.mem_cons.1 he with rfl | he
        · refine ⟨e, hfits, [], rest, rfl, fun _ he => absurd he List.not_mem_nil, ?_⟩
          exact fun e' he' hfits' => absurd ⟨e', he', hfits'⟩ hrest
        · exact absurd ⟨e, he, hfits⟩ hrest

namespace Filter

theorem reach_le_trans (a b c : Directive) (hab : decide (a.reach ≤ b.reach) = true)
    (hbc : decide (b.reach ≤ c.reach) = true) : decide (a.reach ≤ c.reach) = true :=
  decide_eq_true (Nat.le_trans (of_decide_eq_true hab) (of_decide_eq_true hbc))

theorem reach_le_total (a b : Directive) :
    (decide (a.reach ≤ b.reach) || decide (b.reach ≤ a.reach)) = true := by
  rw [Bool.or_eq_true, decide_eq_true_eq, decide_eq_true_eq]
  exact Nat.le_total a.reach b.reach

theorem pairwise_ordered (ds : List Directive) :
    (ordered ds).Pairwise fun a b => a.reach ≤ b.reach := by
  have hsorted : (ordered ds).Pairwise fun a b => decide (a.reach ≤ b.reach) = true :=
    List.pairwise_mergeSort reach_le_trans reach_le_total ds
  exact hsorted.imp of_decide_eq_true

theorem ordered_perm (ds : List Directive) : (ordered ds).Perm ds := List.mergeSort_perm ds _

/-- Directives with names of one length stay as they are. -/
theorem filter_ordered (ds : List Directive) (n : Nat) :
    (ordered ds).filter (fun d => d.reach = n) = ds.filter fun d => d.reach = n := by
  have hsub : (ds.filter fun d => d.reach = n).Sublist (ordered ds) := by
    refine List.sublist_mergeSort reach_le_trans reach_le_total ?_ List.filter_sublist
    refine List.pairwise_of_forall_mem_list fun a ha b hb => ?_
    simp only [List.mem_filter, decide_eq_true_eq] at ha hb ⊢
    omega
  -- Both have as many, since sorting only changes the order.
  have hagain := hsub.filter fun d => decide (d.reach = n)
  rw [List.filter_filter] at hagain
  simp only [Bool.and_self] at hagain
  exact (hagain.eq_of_length ((ordered_perm ds).filter _).length_eq.symm).symm

/-- The last of all is the last of those with the longest names. -/
theorem getLast?_of_pairwise (hpairwise : ds.Pairwise fun a b => a.reach ≤ b.reach)
    (hmost : ∀ e ∈ ds, e.reach ≤ d.reach)
    (hlast : (ds.filter fun e => e.reach = d.reach).getLast? = some d) :
    ds.getLast? = some d := by
  have hmem : d ∈ ds := (List.mem_filter.1 (List.mem_of_getLast? hlast)).1
  rcases List.eq_nil_or_concat ds with rfl | ⟨front, x, rfl⟩
  · exact absurd hmem List.not_mem_nil
  · rw [List.concat_eq_append] at hpairwise hmost hlast hmem ⊢
    have hx : x ∈ front ++ [x] := List.mem_append_right _ (List.mem_singleton_self x)
    have hdx : d.reach ≤ x.reach := by
      rcases List.mem_append.1 hmem with hd | hd
      · exact (List.pairwise_append.1 hpairwise).2.2 d hd x (List.mem_singleton_self x)
      · exact Nat.le_of_eq (congrArg Directive.reach (List.mem_singleton.1 hd))
    have hreach : x.reach = d.reach := Nat.le_antisymm (hmost x hx) hdx
    rw [List.filter_append, List.filter_cons, if_pos (decide_eq_true hreach), List.filter_nil,
      List.getLast?_concat] at hlast
    rw [List.getLast?_concat, hlast]

/-- The directive that decides is found. -/
theorem directive?_of_decides {f : Filter} (h : Decides f.directives target d) :
    f.directive? target = some d := by
  -- Among those that fit and have a name as long, it stands last before they are sorted.
  rw [directive?, ← List.getLast?_filter]
  refine getLast?_of_pairwise ((pairwise_ordered _).filter _) (fun e he => ?_) ?_
  · rcases List.mem_filter.1 he with ⟨he, hfits⟩
    exact h.reach_le ((ordered_perm _).mem_iff.1 he) hfits
  · rcases h.last with ⟨before, behind, hsplit, -, hbehind⟩
    have hnone : behind.filter (fun e => decide (e.reach = d.reach) && e.fits target) = [] := by
      refine List.filter_eq_nil_iff.2 fun e he hlong => ?_
      rw [Bool.and_eq_true, decide_eq_true_eq] at hlong
      exact Nat.ne_of_lt (hbehind e he hlong.2) hlong.1
    have hpos : (decide (d.reach = d.reach) && d.fits target) = true := by
      rw [h.fits, decide_eq_true rfl, Bool.and_self]
    have hswap : ∀ l : List Directive,
        (l.filter (·.fits target)).filter (fun e => e.reach = d.reach) =
          (l.filter fun e => e.reach = d.reach).filter (·.fits target) := fun l => by
      simp only [List.filter_filter, Bool.and_comm]
    rw [hswap, filter_ordered, ← hswap, List.filter_filter, hsplit, List.filter_append,
      List.filter_cons, if_pos hpos, hnone, List.getLast?_concat]

/-- The directive that is found is the one that decides. -/
theorem directive?_eq_some_iff {f : Filter} :
    f.directive? target = some d ↔ Decides f.directives target d := by
  refine ⟨fun h => ?_, directive?_of_decides⟩
  have hmem : d ∈ f.directives :=
    (ordered_perm _).mem_iff.1 (List.mem_reverse.1 (List.mem_of_find?_eq_some h))
  have hfits : d.fits target = true := (List.find?_eq_some_iff_append.1 h).1
  rcases exists_decides ⟨d, hmem, hfits⟩ with ⟨e, he⟩
  obtain rfl : e = d := Option.some.inj ((directive?_of_decides he).symm.trans h)
  exact he

/-- A threshold lets a level through if the directive that decides does. -/
theorem threshold_admits_iff (f : Filter) (target : String) (level : Level) :
    (f.threshold target).admits level = true ↔
      ∃ d, Decides f.directives target d ∧ d.threshold.admits level = true := by
  simp only [← directive?_eq_some_iff, threshold]
  rcases f.directive? target with _ | d
  · simp only [Option.map_none, Option.getD_none, Threshold.admits, Option.any_none, reduceCtorEq,
      false_and, exists_false]
  · simp only [Option.map_some, Option.getD_some, Option.some.injEq, exists_eq_left']

section Inserting

theorem mem_names_insert {name : Option String} :
    name ∈ (insert d ds).map Directive.name ↔
      name = d.name ∨ name ∈ ds.map Directive.name := by
  induction ds with
  | nil => simp only [insert, List.map_cons, List.map_nil, List.mem_singleton, List.not_mem_nil,
      or_false]
  | cons first rest ih =>
      rw [insert]
      split
      · rename_i hname
        rw [List.map_cons, List.map_cons, hname, List.mem_cons, or_self_left]
      · rw [List.map_cons, List.map_cons, List.mem_cons, ih, List.mem_cons, or_left_comm]

/-- Names stay different from each other. -/
theorem nodup_names_insert (h : (ds.map Directive.name).Nodup) :
    ((insert d ds).map Directive.name).Nodup := by
  induction ds with
  | nil => exact List.nodup_singleton _
  | cons first rest ih =>
      rw [List.map_cons, List.nodup_cons] at h
      rw [insert]
      split
      · rename_i hname
        rw [List.map_cons, List.nodup_cons, ← hname]
        exact h
      · rename_i hname
        rw [List.map_cons, List.nodup_cons, mem_names_insert]
        exact ⟨fun hmem => hmem.elim hname h.1, ih h.2⟩

/-- A directive takes the place of the one with its name. -/
theorem mem_insert_iff (h : (ds.map Directive.name).Nodup) :
    e ∈ insert d ds ↔ e = d ∨ e ∈ ds ∧ e.name ≠ d.name := by
  induction ds with
  | nil => simp only [insert, List.mem_singleton, List.not_mem_nil, false_and, or_false]
  | cons first rest ih =>
      rw [List.map_cons, List.nodup_cons] at h
      rw [insert]
      split
      · rename_i hname
        have hrest : ∀ e ∈ rest, e.name ≠ d.name := fun e he heq =>
          h.1 ((heq.trans hname.symm) ▸ List.mem_map_of_mem he)
        rw [List.mem_cons, List.mem_cons]
        refine or_congr Iff.rfl ⟨fun he => ⟨.inr he, hrest e he⟩, ?_⟩
        rintro ⟨rfl | he, hother⟩
        · exact absurd hname hother
        · exact he
      · rename_i hname
        rw [List.mem_cons, ih h.2, List.mem_cons, or_left_comm, or_and_right]
        refine or_congr Iff.rfl (or_congr ?_ Iff.rfl)
        exact (and_iff_left_of_imp fun he => he ▸ hname).symm

/-- A directive that no later one takes the place of. -/
def Lasting (said : List Directive) (d : Directive) : Prop :=
  ∃ before behind, said = before ++ d :: behind ∧ ∀ e ∈ behind, e.name ≠ d.name

theorem lasting_concat {said : List Directive} :
    Lasting (said ++ [e]) d ↔ d = e ∨ Lasting said d ∧ d.name ≠ e.name := by
  constructor
  · rintro ⟨before, behind, hsplit, hbehind⟩
    rcases List.eq_nil_or_concat behind with rfl | ⟨front, last, rfl⟩
    · exact .inl (List.singleton_inj.1 (List.append_inj_right' hsplit rfl)).symm
    · rw [List.concat_eq_append, ← List.cons_append, ← List.append_assoc] at hsplit
      rcases List.append_inj' hsplit rfl with ⟨hsaid, hlast⟩
      obtain rfl : e = last := List.singleton_inj.1 hlast
      refine .inr ⟨⟨before, front, hsaid, fun e' he' => hbehind e' ?_⟩, ?_⟩
      · exact List.concat_eq_append ▸ List.mem_append_left _ he'
      · exact (hbehind e (List.concat_eq_append ▸ List.mem_concat_self)).symm
  · rintro (rfl | ⟨⟨before, behind, rfl, hbehind⟩, hname⟩)
    · exact ⟨said, [], rfl, fun _ he => absurd he List.not_mem_nil⟩
    · refine ⟨before, behind ++ [e], by rw [List.append_assoc, List.cons_append], ?_⟩
      refine List.forall_mem_append.2 ⟨hbehind, List.forall_mem_singleton.2 hname.symm⟩

/-- Of directives that are taken up one after the other those are left whose place none of
    the later ones takes. -/
theorem mem_foldl_insert_iff (said : List Directive) :
    ((said.foldl (fun ds d => insert d ds) []).map Directive.name).Nodup ∧
      ∀ d, d ∈ said.foldl (fun ds d => insert d ds) [] ↔ Lasting said d := by
  induction said using List.reverseRecOn with
  | nil =>
      refine ⟨List.nodup_nil, fun d => iff_of_false List.not_mem_nil ?_⟩
      rintro ⟨before, behind, hsplit, -⟩
      exact absurd hsplit.symm (List.append_ne_nil_of_right_ne_nil _ (List.cons_ne_nil _ _))
  | append_singleton front last ih =>
      rw [List.foldl_concat]
      refine ⟨nodup_names_insert ih.1, fun d => ?_⟩
      rw [mem_insert_iff ih.1, ih.2 d, lasting_concat]

end Inserting

variable {specs : List String}

/-- All that several specifications say. -/
def said (specs : List String) : List Directive :=
  specs.flatMap fun s => (Spec.read s).directives

theorem directives_ofSpecs (specs : List String) :
    (ofSpecs specs).1.directives = (said specs).foldl (fun ds d => insert d ds) [] := by
  induction specs using List.reverseRecOn with
  | nil => rfl
  | append_singleton front last ih =>
      rw [said, List.flatMap_append, List.foldl_append, ← said, ← ih, List.flatMap_singleton]
      simp only [ofSpecs, List.map_append, List.map_cons, List.map_nil, List.foldl_concat, add]

theorem pattern_ofSpecs (specs : List String) :
    (ofSpecs specs).1.pattern = specs.getLast?.bind fun s => (Spec.read s).pattern := by
  rcases List.eq_nil_or_concat specs with rfl | ⟨front, last, rfl⟩
  · rfl
  · rw [List.concat_eq_append, List.getLast?_concat]
    simp only [ofSpecs, List.map_append, List.map_cons, List.map_nil, List.foldl_concat, add,
      Option.bind_some]

/-- Of all directives that are said, a filter has those whose place no later one takes. -/
theorem mem_directives_iff : d ∈ (ofSpecs specs).1.directives ↔ Lasting (said specs) d := by
  rw [directives_ofSpecs]
  exact (mem_foldl_insert_iff (said specs)).2 d

/-- A pattern that a specification says is one that is accepted. -/
theorem ofText_of_read {s : String} {p : Pattern} (h : (Spec.read s).pattern = some p) :
    ∃ text, Pattern.ofText text = .ok p := by
  unfold Spec.read at h
  split at h
  · exact absurd h (Option.some_ne_none p).symm
  · split at h
    · exact absurd h (Option.some_ne_none p).symm
    · rename_i list behind _ _
      rcases Option.bind_eq_some_iff.1 h with ⟨read, hread, hok⟩
      rcases Option.map_eq_some_iff.1 hread with ⟨text, -, rfl⟩
      rw [Spec.patternOf] at hok
      rcases hpattern : Pattern.ofText (String.ofList text) with refusal | accepted
      · rw [hpattern] at hok
        exact absurd hok (Option.some_ne_none p).symm
      · rw [hpattern] at hok
        exact ⟨String.ofList text, hpattern.trans (congrArg Except.ok (Option.some.inj hok))⟩

/-- A record is written if the directive for its target lets its level through and the
    pattern of the last specification, if it has one, matches somewhere in its text. -/
theorem hears_ofSpecs_iff (specs : List String) (r : Record) :
    (ofSpecs specs).1.hears r = true ↔
      (∃ d, Decides (ofSpecs specs).1.directives r.target d ∧
        d.threshold.admits r.level = true) ∧
      ∀ p ∈ specs.getLast?.bind fun s => (Spec.read s).pattern,
        ∃ i j, i ≤ r.text.toList.length ∧ p.expression.Matches r.text.toList i j := by
  rw [hears, Bool.and_eq_true, ← pattern_ofSpecs]
  refine and_congr (threshold_admits_iff _ r.target r.level) ?_
  rw [Option.all_eq_true]
  refine forall₂_congr fun p hp => ?_
  rw [pattern_ofSpecs, Option.bind_eq_some_iff] at hp
  rcases hp with ⟨s, -, hpattern⟩
  rcases ofText_of_read hpattern with ⟨text, htext⟩
  exact Pattern.occursIn_ofText htext r.text

end Filter

end Log

end PrintBridge
