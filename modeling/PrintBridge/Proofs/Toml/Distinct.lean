import Mathlib.Data.List.Nodup
import PrintBridge.Toml.Document

/-!
# Distinct Keys

No table of a document has a key twice, at any depth.

A tree by itself may repeat a key, and then it is open what stands under it. The
trees that are read do not. A key is added only where it is new, and whatever else
happens to a table leaves its keys as they are or takes one away. `Table.Distinct`
is this invariant, and everything that the reader is made of keeps it: the changes
at the end of a path first, then values with what they hold, then the lines of a
document with the table that is kept apart for the last header.

Most tables are changed deep inside others, so the crux is `update?_distinct`: a
change that keeps the invariant at the end of a path keeps it at the start. Every
way to put something into a document is such a change.

## Main definitions

* `Node.Distinct`, `Table.Distinct`: No key stands twice.
* `Reader.Yields`: What a reader can give.
* `Builder.Distinct`: The same of a document while it is read.

## Theorems

* `update?_distinct`, `insert?_distinct`: Changes keep keys apart.
* `valueWithin?_distinct`: So do values.
* `line?_distinct`: So does a line of a document.
* `read?_distinct`: A document that is read repeats no key.
-/

namespace PrintBridge

namespace Toml

/-- A node in which no table has a key twice. -/
inductive Node.Distinct : Node → Prop where
  | string (text : String) : Distinct (.string text)
  | integer (number : Int) : Distinct (.integer number)
  | float (number : Double) : Distinct (.float number)
  | boolean (truth : Bool) : Distinct (.boolean truth)
  | datetime : Distinct .datetime
  | array {items : List Node} (hitems : ∀ n ∈ items, Distinct n) : Distinct (.array items)
  | table {origin : Origin} {entries : Table} (hkeys : (entries.map Prod.fst).Nodup)
      (hvalues : ∀ e ∈ entries, Distinct e.2) : Distinct (.table origin entries)
  | tables {items : List Table} (hkeys : ∀ t ∈ items, (t.map Prod.fst).Nodup)
      (hvalues : ∀ t ∈ items, ∀ e ∈ t, Distinct e.2) : Distinct (.tables items)

/-- A table that has no key twice, and neither has any table in it. -/
structure Table.Distinct (t : Table) : Prop where
  keys : (t.map Prod.fst).Nodup
  values : ∀ e ∈ t, e.2.Distinct

theorem distinct_table_iff {origin : Origin} {t : Table} :
    (Node.table origin t).Distinct ↔ t.Distinct := by
  constructor
  · rintro (_ | _ | _ | _ | _ | _ | ⟨hkeys, hvalues⟩ | _)
    exact ⟨hkeys, hvalues⟩
  · rintro ⟨hkeys, hvalues⟩
    exact .table hkeys hvalues

theorem distinct_tables_iff {items : List Table} :
    (Node.tables items).Distinct ↔ ∀ t ∈ items, t.Distinct := by
  constructor
  · rintro (_ | _ | _ | _ | _ | _ | _ | ⟨hkeys, hvalues⟩) t ht
    exact ⟨hkeys t ht, hvalues t ht⟩
  · intro h
    exact .tables (fun t ht => (h t ht).keys) fun t ht => (h t ht).values

namespace Table

variable {t : Table} {key : String} {value : Node}

theorem mem_of_find? (h : find? t key = some value) : (key, value) ∈ t := by
  rcases Option.map_eq_some_iff.1 h with ⟨⟨k, v⟩, hfound, rfl⟩
  have hkey := List.find?_some hfound
  simp only [beq_iff_eq] at hkey
  rw [← hkey]
  exact List.mem_of_find?_eq_some hfound

theorem not_mem_keys_of_find? (h : find? t key = none) : key ∉ t.map Prod.fst := by
  intro hmem
  rcases List.mem_map.1 hmem with ⟨e, he, hkey⟩
  have hne := List.find?_eq_none.1 (Option.map_eq_none_iff.1 h) e he
  exact hne (beq_iff_eq.2 hkey)

theorem distinct_nil : Distinct [] := ⟨List.nodup_nil, fun _ he => absurd he List.not_mem_nil⟩

/-- What stands in the table is distinct itself. -/
theorem Distinct.found (h : t.Distinct) (hfound : find? t key = some value) : value.Distinct :=
  h.values _ (mem_of_find? hfound)

/-- A new key may be added. -/
theorem Distinct.push (h : t.Distinct) (hnew : find? t key = none) (hvalue : value.Distinct) :
    (push t key value).Distinct := by
  refine ⟨?_, fun e he => ?_⟩
  · rw [Table.push, List.map_append]
    exact List.nodup_append'.2 ⟨h.keys, List.nodup_singleton _,
      List.disjoint_singleton.2 (not_mem_keys_of_find? hnew)⟩
  · rcases List.mem_append.1 he with he | he
    · exact h.values e he
    · rw [List.mem_singleton.1 he]
      exact hvalue

/-- A value may be replaced. -/
theorem Distinct.replace (h : t.Distinct) (hvalue : value.Distinct) :
    (replace t key value).Distinct := by
  have hkeys : (Table.replace t key value).map Prod.fst = t.map Prod.fst := by
    rw [Table.replace, List.map_map]
    refine List.map_congr_left fun e _ => ?_
    by_cases hkey : (e.1 == key) = true
    · rw [Function.comp_apply, if_pos hkey, eq_of_beq hkey]
    · rw [Function.comp_apply, if_neg hkey]
  refine ⟨hkeys ▸ h.keys, fun e he => ?_⟩
  rcases List.mem_map.1 he with ⟨old, hold, rfl⟩
  split
  · exact hvalue
  · exact h.values old hold

/-- A key may be taken away. -/
theorem Distinct.remove (h : t.Distinct) : (remove t key).Distinct :=
  ⟨h.keys.sublist (List.filter_sublist.map _), fun e he => h.values e (List.mem_of_mem_filter he)⟩

theorem Distinct.put (h : t.Distinct) (hvalue : value.Distinct) : (put t key value).Distinct := by
  rw [Table.put]
  split
  · exact h.replace hvalue
  · rename_i hnew
    exact h.push (Option.not_isSome_iff_eq_none.1 hnew) hvalue

/-- A change that keeps keys apart at the end of a path keeps them apart all
    along it. -/
theorem update?_distinct {dotted : Bool} {change : Owned → Option Table}
    (hchange : ∀ reached changed, reached.entries.Distinct → change reached = some changed →
      Distinct changed)
    (path : List String) (owned : Owned) (changed : Table) (howned : owned.entries.Distinct)
    (h : update? dotted change path owned = some changed) : Distinct changed := by
  induction path generalizing owned changed with
  | nil => exact hchange owned changed howned h
  | cons step rest ih =>
      rw [update?] at h
      split at h
      · rename_i hnone
        rcases Option.map_eq_some_iff.1 h with ⟨inner, hinner, rfl⟩
        exact howned.push hnone (distinct_table_iff.2 (ih _ _ distinct_nil hinner))
      · rename_i origin inner hfound
        split at h
        · exact absurd h (by simp only [reduceCtorEq, not_false_eq_true])
        · rcases Option.map_eq_some_iff.1 h with ⟨made, hmade, rfl⟩
          have hinner := distinct_table_iff.1 (howned.found hfound)
          exact howned.replace (distinct_table_iff.2 (ih _ _ hinner hmade))
      · rename_i items hfound
        split at h
        · exact absurd h (by simp only [reduceCtorEq, not_false_eq_true])
        · rename_i last hlast
          rcases Option.map_eq_some_iff.1 h with ⟨made, hmade, rfl⟩
          -- The tables before the last one stay as they are.
          have hitems := distinct_tables_iff.1 (howned.found hfound)
          have hmade := ih _ _ (hitems last (List.mem_of_getLast? hlast)) hmade
          refine howned.replace (distinct_tables_iff.2 fun u hu => ?_)
          rcases List.mem_append.1 hu with hu | hu
          · exact hitems u (List.dropLast_subset _ hu)
          · rw [List.mem_singleton.1 hu]
            exact hmade
      · exact absurd h (by simp only [reduceCtorEq, not_false_eq_true])

theorem insert?_distinct {path : List String} {changed : Table} (ht : t.Distinct)
    (hvalue : value.Distinct) (h : insert? t path key value = some changed) :
    Distinct changed := by
  refine update?_distinct (fun reached made hreached hmade => ?_) path _ changed ht h
  split at hmade
  · exact absurd hmade (by simp only [reduceCtorEq, not_false_eq_true])
  · rename_i hnew
    rw [Bool.or_eq_true, not_or] at hnew
    rw [← Option.some.inj hmade]
    exact hreached.push (Option.not_isSome_iff_eq_none.1 hnew.2) hvalue

end Table

/-- All that a reader can give has a property. -/
def Reader.Yields {α : Type} (r : Reader α) (p : α → Prop) : Prop :=
  ∀ cs a rest, r cs = some (a, rest) → p a

section Values

variable {item : Reader Node}

theorem items?_distinct (hitem : item.Yields Node.Distinct) (fuel : Nat) :
    (items? item fuel).Yields fun ns => ∀ n ∈ ns, n.Distinct := by
  induction fuel with
  | zero => exact fun cs ns rest h => absurd h (by simp only [items?, reduceCtorEq,
      not_false_eq_true])
  | succ fuel ih =>
      intro cs ns rest h
      rw [items?] at h
      split at h
      · obtain ⟨rfl, -⟩ := Prod.mk.inj (Option.some.inj h)
        exact fun n hn => absurd hn List.not_mem_nil
      · split at h
        · exact absurd h (by simp only [reduceCtorEq, not_false_eq_true])
        · rename_i first after hfirst
          have hfirst := hitem _ _ _ hfirst
          split at h
          · obtain ⟨rfl, -⟩ := Prod.mk.inj (Option.some.inj h)
            exact fun n hn => List.mem_singleton.1 hn ▸ hfirst
          · rcases Option.map_eq_some_iff.1 h with ⟨⟨others, left⟩, hothers, heq⟩
            obtain ⟨rfl, -⟩ := Prod.mk.inj heq
            exact List.forall_mem_cons.2 ⟨hfirst, ih _ _ _ hothers⟩
          · exact absurd h (by simp only [reduceCtorEq, not_false_eq_true])

theorem inlineEntries?_distinct (hitem : item.Yields Node.Distinct) (fuel : Nat) (t : Table)
    (ht : t.Distinct) : (inlineEntries? item t fuel).Yields Table.Distinct := by
  induction fuel generalizing t with
  | zero => exact fun cs u rest h => absurd h (by simp only [inlineEntries?, reduceCtorEq,
      not_false_eq_true])
  | succ fuel ih =>
      intro cs u rest h
      rw [inlineEntries?] at h
      split at h
      · exact absurd h (by simp only [reduceCtorEq, not_false_eq_true])
      · split at h
        · split at h
          · exact absurd h (by simp only [reduceCtorEq, not_false_eq_true])
          · rename_i value after hvalue
            split at h
            · exact absurd h (by simp only [reduceCtorEq, not_false_eq_true])
            · rename_i grown hgrown
              have hgrown := Table.insert?_distinct ht (hitem _ _ _ hvalue) hgrown
              split at h
              · obtain ⟨rfl, -⟩ := Prod.mk.inj (Option.some.inj h)
                exact hgrown
              · exact ih grown hgrown _ _ _ h
              · exact absurd h (by simp only [reduceCtorEq, not_false_eq_true])
        · exact absurd h (by simp only [reduceCtorEq, not_false_eq_true])

theorem inlineTable?_distinct (hitem : item.Yields Node.Distinct) :
    (inlineTable? item).Yields Node.Distinct := by
  intro cs n rest h
  rw [inlineTable?] at h
  split at h
  · obtain ⟨rfl, -⟩ := Prod.mk.inj (Option.some.inj h)
    exact distinct_table_iff.2 Table.distinct_nil
  · rcases Option.map_eq_some_iff.1 h with ⟨⟨entries, left⟩, hentries, heq⟩
    obtain ⟨rfl, -⟩ := Prod.mk.inj heq
    exact distinct_table_iff.2
      (inlineEntries?_distinct hitem _ [] Table.distinct_nil _ _ _ hentries)

/-- A scalar has no keys. -/
theorem token?_distinct : Reader.Yields token? Node.Distinct := by
  intro cs n rest h
  simp only [token?] at h
  split at h
  · obtain ⟨rfl, -⟩ := Prod.mk.inj (Option.some.inj h)
    exact .datetime
  · rcases Option.map_eq_some_iff.1 h with ⟨read, hread, heq⟩
    obtain ⟨rfl, -⟩ := Prod.mk.inj heq
    unfold ofToken? at hread
    split at hread
    · exact Option.some.inj hread ▸ .boolean true
    · split at hread
      · exact Option.some.inj hread ▸ .boolean false
      · split at hread
        · exact Option.some.inj hread ▸ .datetime
        · split at hread
          · exact Option.some.inj hread ▸ .float _
          · rcases Option.map_eq_some_iff.1 hread with ⟨number, -, rfl⟩
            exact .integer number

/-- A string has no keys either. -/
theorem stringNode_distinct {cs : List Char} {n : Node} {rest : List Char}
    (h : ((string? cs).map fun r => (Node.string r.1, r.2)) = some (n, rest)) : n.Distinct := by
  rcases Option.map_eq_some_iff.1 h with ⟨read, -, heq⟩
  obtain ⟨rfl, -⟩ := Prod.mk.inj heq
  exact .string _

theorem valueWithin?_distinct (depth : Nat) : Reader.Yields (valueWithin? depth) Node.Distinct := by
  induction depth with
  | zero =>
      intro cs n rest h
      unfold valueWithin? at h
      split at h
      · exact stringNode_distinct h
      · exact stringNode_distinct h
      · exact absurd h (by simp only [reduceCtorEq, not_false_eq_true])
      · rename_i heq
        exact absurd heq (Nat.succ_ne_zero _).symm
      · exact absurd h (by simp only [reduceCtorEq, not_false_eq_true])
      · rename_i heq
        exact absurd heq (Nat.succ_ne_zero _).symm
      · exact token?_distinct _ _ _ h
  | succ depth ih =>
      intro cs n rest h
      unfold valueWithin? at h
      split at h
      · exact stringNode_distinct h
      · exact stringNode_distinct h
      · rename_i heq
        exact absurd heq (Nat.succ_ne_zero _)
      · rename_i hdepth
        obtain rfl := Nat.succ.inj hdepth
        rcases Option.map_eq_some_iff.1 h with ⟨⟨items, left⟩, hitems, heq⟩
        obtain ⟨rfl, -⟩ := Prod.mk.inj heq
        exact .array (items?_distinct ih _ _ _ _ hitems)
      · rename_i heq
        exact absurd heq (Nat.succ_ne_zero _)
      · rename_i hdepth
        obtain rfl := Nat.succ.inj hdepth
        exact inlineTable?_distinct ih _ _ _ h
      · exact token?_distinct _ _ _ h

end Values

/-- A document while it is read, where no key stands twice: neither in the root nor
    in the table that is kept apart. -/
structure Builder.Distinct (b : Builder) : Prop where
  root : b.root.Distinct
  current : b.current.Distinct

namespace Builder

variable {b : Builder}

theorem appendTable?_distinct {root changed : Table} {path : List String} {key : String}
    {added : List Table} (hroot : root.Distinct) (hadded : ∀ t ∈ added, t.Distinct)
    (h : appendTable? root path key added = some changed) : changed.Distinct := by
  refine Table.update?_distinct (fun parent made hparent hmade => ?_) path _ changed hroot h
  split at hmade
  · rename_i hnone
    rw [← Option.some.inj hmade]
    exact hparent.push hnone (distinct_tables_iff.2 hadded)
  · rename_i items hfound
    rw [← Option.some.inj hmade]
    refine hparent.replace (distinct_tables_iff.2 fun t ht => ?_)
    rcases List.mem_append.1 ht with ht | ht
    · exact distinct_tables_iff.1 (hparent.found hfound) t ht
    · exact hadded t ht
  · exact absurd hmade (by simp only [reduceCtorEq, not_false_eq_true])

theorem finish?_distinct {changed : Table} (hb : b.Distinct) (h : b.finish? = some changed) :
    changed.Distinct := by
  rw [finish?] at h
  split at h
  · exact Option.some.inj h ▸ hb.current
  · split at h
    · exact appendTable?_distinct hb.root (fun t ht => List.mem_singleton.1 ht ▸ hb.current) h
    · refine Table.update?_distinct (fun parent made hparent hmade => ?_) _ _ changed hb.root h
      rw [← Option.some.inj hmade]
      exact hparent.put (distinct_table_iff.2 hb.current)

theorem foundAt?_distinct {key : String} (path : List String) (t : Table) (n : Node)
    (ht : t.Distinct) (h : found?.at? key path t = some (some n)) : n.Distinct := by
  induction path generalizing t with
  | nil => exact ht.found (Option.some.inj h)
  | cons step rest ih =>
      rw [found?.at?] at h
      split at h
      · exact absurd h (by simp only [Option.some.injEq, reduceCtorEq, not_false_eq_true])
      · exact absurd h (by simp only [reduceCtorEq, not_false_eq_true])
      · rename_i hfound
        exact ih _ (distinct_table_iff.1 (ht.found hfound)) h
      · rename_i items hfound
        rcases Option.bind_eq_some_iff.1 h with ⟨last, hlast, hat⟩
        exact ih _ (distinct_tables_iff.1 (ht.found hfound) last (List.mem_of_getLast? hlast)) hat
      · exact absurd h (by simp only [reduceCtorEq, not_false_eq_true])

theorem found?_distinct {root changed : Table} {path : List String} {key : String}
    (hroot : root.Distinct) (h : found? root path key = some changed) : changed.Distinct := by
  rw [found?] at h
  split at h
  · exact absurd h (by simp only [reduceCtorEq, not_false_eq_true])
  · exact Option.some.inj h ▸ Table.distinct_nil
  · rename_i hat
    exact Option.some.inj h ▸ distinct_table_iff.1 (foundAt?_distinct path root _ hroot hat)
  · exact absurd h (by simp only [reduceCtorEq, not_false_eq_true])

theorem openTable?_distinct {path : List String} {key : String} {opened : Builder}
    (hb : b.Distinct) (h : b.openTable? path key = some opened) : opened.Distinct := by
  simp only [openTable?, Option.bind_eq_bind, Option.bind_eq_some_iff, Option.pure_def,
    Option.some.injEq] at h
  rcases h with ⟨root, hroot, current, hcurrent, kept, hkept, rfl⟩
  have hroot := finish?_distinct hb hroot
  refine ⟨?_, found?_distinct hroot hcurrent⟩
  refine Table.update?_distinct (fun parent made hparent hmade => ?_) path _ kept hroot hkept
  rw [← Option.some.inj hmade]
  exact hparent.remove

theorem openRepeated?_distinct {path : List String} {key : String} {opened : Builder}
    (hb : b.Distinct) (h : b.openRepeated? path key = some opened) : opened.Distinct := by
  simp only [openRepeated?, Option.bind_eq_bind, Option.bind_eq_some_iff, Option.pure_def,
    Option.some.injEq] at h
  rcases h with ⟨root, hroot, kept, hkept, rfl⟩
  exact ⟨appendTable?_distinct (finish?_distinct hb hroot) (fun t ht => absurd ht
    List.not_mem_nil) hkept, Table.distinct_nil⟩

theorem addValue?_distinct {path : List String} {key : String} {value : Node} {grown : Builder}
    (hb : b.Distinct) (hvalue : value.Distinct) (h : b.addValue? path key value = some grown) :
    grown.Distinct := by
  rcases Option.map_eq_some_iff.1 h with ⟨current, hcurrent, rfl⟩
  exact ⟨hb.root, Table.insert?_distinct hb.current hvalue hcurrent⟩

end Builder

/-- A line keeps keys apart, whatever it is. -/
theorem line?_distinct {b grown : Builder} {cs rest : List Char} (hb : b.Distinct)
    (h : line? b cs = some (grown, rest)) : grown.Distinct := by
  unfold line? at h
  -- A repeated header, a header, or a key with a value.
  split at h
  · simp only [Option.bind_eq_bind, Option.bind_eq_some_iff] at h
    rcases h with ⟨⟨⟨path, key⟩, left⟩, -, h⟩
    simp only at h
    split at h
    · simp only [Option.bind_eq_some_iff, Option.pure_def, Option.some.injEq, Prod.mk.injEq] at h
      rcases h with ⟨_, -, opened, hopened, rfl, -⟩
      exact Builder.openRepeated?_distinct hb hopened
    · exact absurd h (by simp only [reduceCtorEq, not_false_eq_true])
  · simp only [Option.bind_eq_bind, Option.bind_eq_some_iff] at h
    rcases h with ⟨⟨⟨path, key⟩, left⟩, -, h⟩
    simp only at h
    split at h
    · simp only [Option.bind_eq_some_iff, Option.pure_def, Option.some.injEq, Prod.mk.injEq] at h
      rcases h with ⟨_, -, opened, hopened, rfl, -⟩
      exact Builder.openTable?_distinct hb hopened
    · exact absurd h (by simp only [reduceCtorEq, not_false_eq_true])
  · simp only [Option.bind_eq_bind, Option.bind_eq_some_iff] at h
    rcases h with ⟨⟨⟨path, key⟩, left⟩, -, h⟩
    simp only at h
    split at h
    · simp only [Option.bind_eq_some_iff, Option.pure_def, Option.some.injEq, Prod.mk.injEq] at h
      rcases h with ⟨⟨value, after⟩, hvalue, _, -, grown, hgrown, rfl, -⟩
      exact Builder.addValue?_distinct hb (valueWithin?_distinct _ _ _ _ hvalue) hgrown
    · exact absurd h (by simp only [reduceCtorEq, not_false_eq_true])

theorem lines?_distinct (fuel : Nat) {b grown : Builder} {cs : List Char} (hb : b.Distinct)
    (h : lines? b fuel cs = some grown) : grown.Distinct := by
  induction fuel generalizing b cs with
  | zero => exact absurd h (by simp only [lines?, reduceCtorEq, not_false_eq_true])
  | succ fuel ih =>
      rw [lines?] at h
      split at h
      · exact Option.some.inj h ▸ hb
      · split at h
        · exact Option.some.inj h ▸ hb
        · rcases Option.bind_eq_some_iff.1 h with ⟨left, -, hlines⟩
          exact ih hb hlines
      · exact ih hb h
      · exact ih hb h
      · split at h
        · exact absurd h (by simp only [reduceCtorEq, not_false_eq_true])
        · rename_i hline
          exact ih (line?_distinct hb hline) h

/-- No table of a document that is read has a key twice. -/
theorem Document.read?_distinct {s : String} {t : Table} (h : read? s = some t) : t.Distinct := by
  rcases Option.bind_eq_some_iff.1 h with ⟨b, hlines, hfinish⟩
  exact Builder.finish?_distinct
    (lines?_distinct _ ⟨Table.distinct_nil, Table.distinct_nil⟩ hlines) hfinish

end Toml

end PrintBridge
