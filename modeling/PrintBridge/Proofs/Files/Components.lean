import PrintBridge.Proofs.Files.Steps

/-!
# Components on the Way Up

What a path says as a whole, and how much of it is left after so many parents.

The components of a path are the mark of its opening and then its steps. A
parent loses the last of them: a step as long as there is one, and the dot of
the opening after that. A file in a directory has one more component than the
directory, so the parent of the file says what the directory says, also where
the two are spelled differently.

`ancestor?` counts the parents that are taken. A parent is shorter, so there
are no more of them than the path has bytes, and a search from one to the next
comes to an end.

## Main definitions

* `Path.mark`: What the opening of a path says.
* `Path.ancestor?`: The path after so many parents were taken.
* `Path.First`: The first of a path and its parents with a property.

## Theorems

* `components_parent`: A parent loses the last component.
* `components_join`: A file in a directory has one component more.
* `parent_join`: Its parent says what the directory says.
* `ancestor?_length`: Ancestors are shorter by as much as they are away.
* `find?_ancestors_of_first`, `find?_ancestors_of_none`: What a search through
  the ancestors comes to.
* `exists_ancestor?_none`: There is an end to them.
-/

namespace PrintBridge

namespace Path

variable {p q : Path}

/-- What the opening of a path says. -/
def mark (front : Bytes) : List Component :=
  if front = [slash] then [.root] else if front = [dot] then [.current] else []

theorem components_eq (p : Path) : p.components = mark (opening p.bytes).1 ++ p.steps := by
  rw [steps_eq_body]
  rfl

/-- A dot in front of a slash, or alone, is an opening. -/
theorem opening_dot {rest : Bytes} (h : rest = [] ∨ rest.head? = some slash) :
    opening (dot :: rest) = ([dot], rest) := by
  have hslash : dot ≠ slash := by decide
  rw [opening, if_neg hslash, if_pos ⟨rfl, h⟩]

/-- Any other byte than a slash is none. -/
theorem opening_none {b : UInt8} {rest : Bytes} (hslash : b ≠ slash)
    (hdot : ¬ (b = dot ∧ (rest = [] ∨ rest.head? = some slash))) :
    opening (b :: rest) = ([], b :: rest) := by
  rw [opening, if_neg hslash, if_neg hdot]

/-- What is kept of a list starts as the list does. -/
theorem head?_of_kept {kept rest : Bytes} (h : kept <+: rest) (hne : kept ≠ []) :
    kept.head? = rest.head? := by
  rcases List.exists_cons_of_ne_nil hne with ⟨b, kept, rfl⟩
  rcases h with ⟨back, rfl⟩
  rfl

/-- A path keeps its opening as long as whole segments are taken from its end. -/
theorem opening_kept {bytes kept : Bytes} (h : kept <+: (opening bytes).2) (hnot : kept ≠ [dot]) :
    (opening ((opening bytes).1 ++ kept)).1 = (opening bytes).1 := by
  cases bytes with
  | nil =>
      rw [List.prefix_nil.1 h]
      rfl
  | cons b rest =>
      by_cases hslash : b = slash
      · rw [hslash]
        rfl
      · by_cases hdot : b = dot ∧ (rest = [] ∨ rest.head? = some slash)
        · rw [hdot.1, opening_dot hdot.2] at h ⊢
          -- What is kept is empty, or it starts with the slash behind the dot.
          have hkept : kept = [] ∨ kept.head? = some slash := by
            by_cases hnil : kept = []
            · exact .inl hnil
            · rcases hdot.2 with hrest | hrest
              · exact absurd (List.prefix_nil.1 (hrest ▸ h)) hnil
              · exact .inr ((head?_of_kept h hnil).trans hrest)
          change (opening (dot :: kept)).1 = [dot]
          rw [opening_dot hkept]
        · rw [opening_none hslash hdot] at h ⊢
          rcases kept with _ | ⟨c, kept⟩
          · rfl
          · rcases List.cons_prefix_cons.1 h with ⟨rfl, hkept⟩
            change (opening (c :: kept)).1 = []
            rw [opening_none hslash]
            rintro ⟨rfl, hopen⟩
            -- Taking segments away leaves no dot alone, or in front of a slash.
            by_cases hnil : kept = []
            · exact hnot (congrArg _ hnil)
            · have hhead := head?_of_kept hkept hnil
              exact hdot ⟨rfl, .inr (hhead ▸ hopen.resolve_left hnil)⟩

theorem components_parent (h : p.parent? = some q) : q.components = p.components.dropLast := by
  rw [components_eq p]
  rcases parent?_cases h with ⟨hnil, hdot, hsteps⟩ | ⟨kept, hbytes, hkept, hsteps, hne, hnot⟩
  · -- Only the dot was left, and it goes.
    rw [hdot, hsteps, components_eq, steps, hnil]
    rfl
  · rw [components_eq q, steps_parent h, hbytes, opening_kept hkept hnot,
      List.dropLast_append_of_ne_nil hne]

theorem ne_nil_of_componentOf? {segment : Bytes} {c : Component}
    (h : componentOf? segment = some c) : segment ≠ [] := by
  rintro rfl
  rw [componentOf?, if_pos (.inl rfl)] at h
  exact absurd h (by simp only [reduceCtorEq, not_false_eq_true])

/-- A file in a directory stands behind the bytes of the directory, and behind
    a slash. -/
theorem join_bytes (directory : Path) {name : Bytes} (hslash : slash ∉ name) :
    ∃ tail, (directory.join ⟨name⟩).bytes = directory.bytes ++ tail ∧
      (directory.bytes = [] → tail = name) ∧
      ∀ b, directory.bytes = [b] → b = slash ∨ tail.head? = some slash := by
  rw [join, if_neg (not_absolute_of_no_slash hslash)]
  split
  · rename_i hends
    refine ⟨name, rfl, fun _ => rfl, fun b hb => ?_⟩
    rw [hb] at hends
    rcases hends with hnil | hlast
    · exact absurd hnil (List.cons_ne_nil _ _)
    · exact .inl (Option.some.inj hlast)
  · rename_i hends
    exact ⟨slash :: name, rfl, fun hnil => absurd (.inl hnil) hends, fun _ _ => .inr rfl⟩

/-- A file in a directory opens as the directory does. -/
theorem opening_join (directory : Path) {name : Bytes} (hslash : slash ∉ name)
    (hname : componentOf? name = some (.name name)) :
    (opening (directory.join ⟨name⟩).bytes).1 = (opening directory.bytes).1 := by
  rcases join_bytes directory hslash with ⟨tail, hbytes, hempty, hone⟩
  rw [hbytes]
  rcases hd : directory.bytes with _ | ⟨b, rest⟩
  · -- The name is no dot, so it opens nothing.
    rw [hempty hd]
    rcases List.exists_cons_of_ne_nil (ne_nil_of_componentOf? hname) with ⟨c, rest, rfl⟩
    rw [List.mem_cons, not_or] at hslash
    change (opening (c :: rest)).1 = []
    rw [opening_none (Ne.symm hslash.1)]
    rintro ⟨rfl, hnil | hhead⟩
    · rw [hnil] at hname
      exact absurd hname (by decide)
    · exact hslash.2 (List.mem_of_head? hhead)
  · rw [hd] at hone
    change (opening (b :: (rest ++ tail))).1 = _
    by_cases hb : b = slash
    · rw [hb]
      rfl
    · -- A byte is followed by a slash, or by nothing, in both or in none.
      have hbehind : rest ++ tail = [] ∨ (rest ++ tail).head? = some slash ↔
          rest = [] ∨ rest.head? = some slash := by
        rcases rest with _ | ⟨c, rest⟩
        · have htail := (hone b rfl).resolve_left hb
          simp only [List.nil_append, htail, or_true, true_or]
        · simp only [List.cons_append, reduceCtorEq, List.head?_cons, false_or]
      by_cases hdot : b = dot ∧ (rest = [] ∨ rest.head? = some slash)
      · rw [hdot.1, opening_dot hdot.2, opening_dot (hbehind.2 hdot.2)]
      · rw [opening_none hb hdot, opening_none hb fun h => hdot ⟨h.1, hbehind.1 h.2⟩]

theorem steps_join (directory : Path) {name : Bytes} (hslash : slash ∉ name)
    (hname : componentOf? name = some (.name name)) :
    (directory.join ⟨name⟩).steps = directory.steps ++ [.name name] := by
  rcases segments_join directory hslash with ⟨front, hsegments, hfront⟩
  change (directory.join ⟨name⟩).segments.filterMap componentOf? = _
  rw [hsegments, List.filterMap_append, hfront, List.filterMap_cons_some hname,
    List.filterMap_nil]

/-- A file in a directory has one component more. -/
theorem components_join (directory : Path) {name : Bytes} (hslash : slash ∉ name)
    (hname : componentOf? name = some (.name name)) :
    (directory.join ⟨name⟩).components = directory.components ++ [.name name] := by
  rw [components_eq, components_eq, opening_join directory hslash hname,
    steps_join directory hslash hname, List.append_assoc]

/-- Its parent says what the directory says. -/
theorem parent_join (directory : Path) {name : Bytes} (hslash : slash ∉ name)
    (hname : componentOf? name = some (.name name)) :
    (directory.join ⟨name⟩).parent?.map components = some directory.components := by
  have hcomponents := components_join directory hslash hname
  rcases hparent : (directory.join ⟨name⟩).parent? with _ | q
  · -- Without a parent there would be no name.
    have hsteps := steps_join directory hslash hname
    rw [steps_of_no_parent hparent] at hsteps
    exact absurd hsteps.symm (List.append_ne_nil_of_right_ne_nil _ (List.cons_ne_nil _ _))
  · rw [Option.map_some, components_parent hparent, hcomponents, List.dropLast_concat]

/-- The path after so many parents were taken, if there are as many. -/
def ancestor? (p : Path) : Nat → Option Path
  | 0 => some p
  | k + 1 => p.parent?.bind fun q => q.ancestor? k

/-- Ancestors are shorter by as much as they are away. -/
theorem ancestor?_length {k : Nat} (h : p.ancestor? k = some q) :
    q.bytes.length + k ≤ p.bytes.length := by
  induction k generalizing p with
  | zero =>
      rw [ancestor?, Option.some.injEq] at h
      rw [h]
      exact Nat.le_refl _
  | succ k ih =>
      rw [ancestor?, Option.bind_eq_some_iff] at h
      rcases h with ⟨r, hr, h⟩
      have hlt := parent?_length_lt hr
      have hle := ih h
      omega

/-- The ancestors are the path after none, one, two and more parents. -/
theorem getElem?_ancestors (p : Path) (k : Nat) : p.ancestors[k]? = p.ancestor? k := by
  fun_induction ancestors p generalizing k with
  | case1 p hnone =>
      cases k with
      | zero => rfl
      | succ k =>
          rw [ancestor?, hnone, Option.bind_none, List.getElem?_cons_succ, List.getElem?_nil]
  | case2 p q hq _ ih =>
      cases k with
      | zero => rfl
      | succ k => rw [ancestor?, hq, Option.bind_some, List.getElem?_cons_succ, ih]

/-- The first of a path and its parents with a property. -/
def First (holds : Path → Bool) (p d : Path) : Prop :=
  ∃ k, p.ancestor? k = some d ∧ holds d = true ∧
    ∀ j < k, ∀ c, p.ancestor? j = some c → holds c = false

/-- What a search through the ancestors comes to. -/
theorem find?_ancestors_of_first {holds : Path → Bool} {d : Path} (h : p.First holds d) :
    p.ancestors.find? holds = some d := by
  rcases h with ⟨k, hk, hholds, hbefore⟩
  rw [← getElem?_ancestors] at hk
  rcases List.getElem?_eq_some_iff.1 hk with ⟨hlt, hget⟩
  refine List.find?_eq_some_iff_getElem.2 ⟨hholds, k, hlt, hget, fun j hj => ?_⟩
  have hlt' := Nat.lt_trans hj hlt
  rw [hbefore j hj _ ((getElem?_ancestors p j).symm.trans (List.getElem?_eq_getElem hlt'))]
  rfl

/-- It comes to nothing where no ancestor has the property. -/
theorem find?_ancestors_of_none {holds : Path → Bool}
    (h : ∀ k d, p.ancestor? k = some d → holds d = false) : p.ancestors.find? holds = none := by
  refine List.find?_eq_none.2 fun d hd => ?_
  rcases List.mem_iff_getElem?.1 hd with ⟨k, hk⟩
  rw [getElem?_ancestors] at hk
  rw [h k d hk]
  exact Bool.false_ne_true

/-- No path has more ancestors than bytes. -/
theorem exists_ancestor?_none (p : Path) : ∃ k, p.ancestor? k = none := by
  refine ⟨p.bytes.length + 1, ?_⟩
  rcases h : p.ancestor? (p.bytes.length + 1) with _ | q
  · rfl
  · have hle := ancestor?_length h
    omega

end Path

end PrintBridge
