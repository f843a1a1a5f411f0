import PrintBridge.Proofs.Results
import PrintBridge.Proofs.Toml.Distinct
import PrintBridge.Settings.Decode

/-!
# Decoding of Sections

What the decoder makes of a section, whichever form the section has.

A section may be a table of any kind or an array, and a stream may be a name or
a table with nothing behind one key. All of it ends in lists of fields that are
worked off one after the other, so one law is enough: a field says what it was
given, and says nothing about the others. `Field.Shown` is this law for one field,
and a whole table or array has it from its fields. For a table that takes keys that
are apart, or a later entry would undo an earlier one.

The root of a document is decoded in the same way with the sections as its fields,
so the law serves there once more.

## Main definitions

* `Node.Child`, `Node.At`: What stands in a node, and where.
* `Setting`: The settings that a document can give.
* `Setting.Gives`: How a node gives a text to a setting.
* `Field.Shown`: A field says what it was given, and no more.

## Theorems

* `text_eq_ok_iff`, `stream_eq_ok_iff`: What texts and streams are read from.
* `fromEntries_shown`, `fromItems_shown`: Tables and arrays say what they were given.
* `decodeSection_shown`: A section holds its fields, and maybe items behind them.
-/

namespace PrintBridge

namespace Toml

/-- A step from a node to one that stands in it. -/
inductive Step where
  | key (name : String)
  | item (index : Nat)
deriving DecidableEq

/-- A node stands in another, one step away. -/
inductive Node.Child : Node → Step → Node → Prop where
  | entry {origin : Origin} {entries : Table} {key : String} {n : Node}
      (hmem : (key, n) ∈ entries) : Child (.table origin entries) (.key key) n
  | item {items : List Node} {i : Nat} {n : Node} (hget : items[i]? = some n) :
      Child (.array items) (.item i) n
  | repeated {items : List Table} {i : Nat} {t : Table} (hget : items[i]? = some t) :
      Child (.tables items) (.item i) (.table .header t)

/-- A node stands in another at the end of a path. -/
inductive Node.At : Node → List Step → Node → Prop where
  | here {n : Node} : At n [] n
  | inside {n child m : Node} {step : Step} {path : List Step} (hchild : n.Child step child)
      (hat : At child path m) : At n (step :: path) m

/-- In a node without children stands only the node itself. -/
theorem Node.At.of_childless {n m : Node} {path : List Step} (hat : n.At path m)
    (hnone : ∀ step child, ¬ n.Child step child) : path = [] ∧ m = n := by
  cases hat with
  | here => exact ⟨rfl, rfl⟩
  | inside hchild _ => exact absurd hchild (hnone _ _)

end Toml

namespace Settings

open Toml (Node Step Table)

/-- The settings that a document can give. -/
inductive Setting where
  | library
  | symbol
  | stream
  | level
deriving DecidableEq

namespace Setting

/-- The name of its section. -/
def sectionName : Setting → String
  | library => "native"
  | symbol => "native"
  | stream => "output"
  | level => "log"

/-- Its name in the section. -/
def name : Setting → String
  | library => "library"
  | symbol => "symbol"
  | stream => "stream"
  | level => "level"

/-- The settings of a section, in their order. -/
def ofSection (name : String) : List Setting :=
  [library, symbol, stream, level].filter fun x => x.sectionName == name

/-- What settings say of it, as a text. -/
def value? : Setting → ProjectSettings → Option String
  | library, p => p.effectiveNative.library
  | symbol, p => p.effectiveNative.symbol
  | stream, p => p.stream?.map OutputStream.name
  | level, p => p.level?

/-- A node gives a text to a setting: as a string, or a stream also as the only key
    of a table with nothing in it. -/
inductive Gives : Setting → Node → String → Prop where
  | text (x : Setting) (t : String) : Gives x (.string t) t
  | choice (origin : Toml.Origin) (name : String) (value : Node)
      (hempty : isEmptyNode value = true) : Gives stream (.table origin [(name, value)]) name

theorem mem_ofSection {x : Setting} {name : String} :
    x ∈ ofSection name ↔ x.sectionName = name := by
  rw [ofSection, List.mem_filter, beq_iff_eq, and_iff_right_iff_imp]
  intro _
  cases x <;> decide

end Setting

theorem text_eq_ok_iff {n : Node} {t : String} : text n = .ok t ↔ n = .string t := by
  constructor
  · intro h
    unfold text at h
    split at h
    · rw [Except.ok.inj h]
    · exact absurd h (by simp only [wrongType, reduceCtorEq, not_false_eq_true])
  · rintro rfl
    rfl

/-- A stream has its name in small letters only. -/
theorem streamNamed_eq_ok_iff {name : String} {s : OutputStream} :
    streamNamed name = .ok s ↔ name = s.name := by
  constructor
  · intro h
    unfold streamNamed at h
    split at h
    · rename_i found hfound
      have hname := List.find?_some hfound
      rcases List.mem_map.1 (List.mem_of_find?_eq_some hfound) with ⟨known, -, rfl⟩
      rw [← Except.ok.inj h, ← beq_iff_eq.1 hname]
    · exact absurd h (by simp only [unknownVariant, reduceCtorEq, not_false_eq_true])
  · rintro rfl
    cases s <;> rfl

theorem stream_eq_ok_iff {n : Node} {s : OutputStream} :
    stream n = .ok s ↔ Setting.stream.Gives n s.name := by
  constructor
  · intro h
    unfold stream at h
    split at h
    · rw [streamNamed_eq_ok_iff.1 h]
      exact .text _ _
    · rcases bind_eq_ok_iff.1 h with ⟨named, hnamed, h⟩
      split at h
      · rename_i hempty
        obtain rfl := Except.ok.inj h
        rw [streamNamed_eq_ok_iff.1 hnamed]
        exact .choice _ _ _ hempty
      · exact absurd h (by simp only [wordless, reduceCtorEq, not_false_eq_true])
    · exact absurd h (by simp only [wordless, reduceCtorEq, not_false_eq_true])
  · generalize hname : s.name = name
    intro h
    cases h with
    | text => exact streamNamed_eq_ok_iff.2 hname.symm
    | choice origin _ value hempty =>
        rw [stream, streamNamed_eq_ok_iff.2 hname.symm]
        simp only [Except.bind, hempty, if_true]

section Fields

variable {σ : Type} {shows : String → Node → σ → Prop} {fields : List (Field σ)} {s s' : σ}

/-- Once a field is taken, a section says what the field was given, and what it said
    of other fields it still says. -/
structure Field.Shown (shows : String → Node → σ → Prop) (f : Field σ) : Prop where
  taken : ∀ {n s s'}, n.Distinct → f.take n s = .ok s' → shows f.name n s'
  kept : ∀ {n s s'}, f.take n s = .ok s' → ∀ {name m}, name ≠ f.name → shows name m s →
    shows name m s'

theorem fromEntries_cons {key : String} {value : Node} {rest : Table}
    (h : fromEntries fields s ((key, value) :: rest) = .ok s') :
    ∃ f ∈ fields, f.name = key ∧
      ∃ between, f.take value s = .ok between ∧ fromEntries fields between rest = .ok s' := by
  rw [fromEntries] at h
  split at h
  · rename_i f hfound
    have hname := List.find?_some hfound
    exact ⟨f, List.mem_of_find?_eq_some hfound, beq_iff_eq.1 hname, bind_eq_ok_iff.1 h⟩
  · exact absurd h (by simp only [unknownField, reduceCtorEq, not_false_eq_true])

theorem fromItems_cons {f : Field σ} {items : List Node}
    (h : fromItems s (f :: fields) items = .ok s') :
    ∃ item others, items = item :: others ∧
      ∃ between, f.take item s = .ok between ∧ fromItems between fields others = .ok s' := by
  cases items with
  | nil => exact absurd h (by simp only [fromItems, wordless, reduceCtorEq, not_false_eq_true])
  | cons item others => exact ⟨item, others, rfl, bind_eq_ok_iff.1 h⟩

/-- Entries with other keys change nothing in what was said. -/
theorem fromEntries_kept (hfields : ∀ f ∈ fields, f.Shown shows) {t : Table} {name : String}
    {m : Node} (hname : name ∉ t.map Prod.fst) (h : fromEntries fields s t = .ok s')
    (hshows : shows name m s) : shows name m s' := by
  induction t generalizing s with
  | nil => exact Except.ok.inj h ▸ hshows
  | cons e rest ih =>
      rcases fromEntries_cons h with ⟨f, hf, hkey, between, htake, h⟩
      rw [List.map_cons, List.mem_cons, not_or] at hname
      exact ih hname.2 h ((hfields f hf).kept htake (hkey ▸ hname.1) hshows)

/-- Every key of a table is a field's, and what stands under it is said in the end. -/
theorem fromEntries_shown (hfields : ∀ f ∈ fields, f.Shown shows) {t : Table} (ht : t.Distinct)
    (h : fromEntries fields s t = .ok s') :
    ∀ e ∈ t, ∃ f ∈ fields, f.name = e.1 ∧ shows f.name e.2 s' := by
  induction t generalizing s with
  | nil => exact fun e he => absurd he List.not_mem_nil
  | cons e rest ih =>
      rcases fromEntries_cons h with ⟨f, hf, hkey, between, htake, hrest⟩
      have hnodup := List.nodup_cons.1 ht.keys
      intro d hd
      rcases List.mem_cons.1 hd with rfl | hd
      · -- The entry is taken here, and no later one has its key.
        have htaken := (hfields f hf).taken (ht.values _ List.mem_cons_self) htake
        have hnew : f.name ∉ rest.map Prod.fst := hkey ▸ hnodup.1
        exact ⟨f, hf, hkey, fromEntries_kept hfields hnew hrest htaken⟩
      · exact ih ⟨hnodup.2, fun d hd => ht.values d (List.mem_cons_of_mem _ hd)⟩ hrest d hd

theorem fromItems_kept (hfields : ∀ f ∈ fields, f.Shown shows) {items : List Node} {name : String}
    {m : Node} (hname : name ∉ fields.map Field.name) (h : fromItems s fields items = .ok s')
    (hshows : shows name m s) : shows name m s' := by
  induction fields generalizing s items with
  | nil => exact Except.ok.inj h ▸ hshows
  | cons f others ih =>
      rcases fromItems_cons h with ⟨item, left, rfl, between, htake, h⟩
      rw [List.map_cons, List.mem_cons, not_or] at hname
      exact ih (fun g hg => hfields g (List.mem_cons_of_mem _ hg)) hname.2 h
        ((hfields f List.mem_cons_self).kept htake hname.1 hshows)

/-- Every item of an array is said as the field in its place, or stands behind the
    fields. -/
theorem fromItems_shown (hfields : ∀ f ∈ fields, f.Shown shows)
    (hnodup : (fields.map Field.name).Nodup) {items : List Node} (hitems : ∀ n ∈ items, n.Distinct)
    (h : fromItems s fields items = .ok s') {i : Nat} {n : Node} (hget : items[i]? = some n) :
    fields.length ≤ i ∨ ∃ f, fields[i]? = some f ∧ shows f.name n s' := by
  induction fields generalizing s items i with
  | nil => exact .inl (Nat.zero_le i)
  | cons f others ih =>
      rcases fromItems_cons h with ⟨item, left, rfl, between, htake, h⟩
      have hothers : ∀ g ∈ others, g.Shown shows := fun g hg =>
        hfields g (List.mem_cons_of_mem _ hg)
      have hapart := List.nodup_cons.1 hnodup
      cases i with
      | zero =>
          -- The first item is the first field's, and the others have other names.
          obtain rfl := Option.some.inj hget
          have htaken := (hfields f List.mem_cons_self).taken (hitems _ List.mem_cons_self) htake
          exact .inr ⟨f, rfl, fromItems_kept hothers hapart.1 h htaken⟩
      | succ i =>
          rcases ih hothers hapart.2 (fun n hn => hitems n (List.mem_cons_of_mem _ hn)) h hget with
            hbehind | hfield
          · exact .inl (Nat.succ_le_succ hbehind)
          · exact .inr hfield

/-- What stands in a section is said as one of the fields, under its name or in its
    place, or stands behind the fields of an array. -/
theorem decodeSection_shown (hfields : ∀ f ∈ fields, f.Shown shows)
    (hnodup : (fields.map Field.name).Nodup) {name : String} {n child : Node} {step : Step}
    (hn : n.Distinct) (h : decodeSection name fields s n = .ok s') (hchild : n.Child step child) :
    (∃ f ∈ fields, step = .key f.name ∧ shows f.name child s') ∨
      ∃ i, step = .item i ∧
        (fields.length ≤ i ∨ ∃ f, fields[i]? = some f ∧ shows f.name child s') := by
  cases hchild with
  | entry hmem =>
      rcases fromEntries_shown hfields (Toml.distinct_table_iff.1 hn) h _ hmem with
        ⟨f, hf, rfl, hshows⟩
      exact .inl ⟨f, hf, rfl, hshows⟩
  | item hget =>
      rcases hn with _ | _ | _ | _ | _ | ⟨hitems⟩ | _ | _
      exact .inr ⟨_, rfl, fromItems_shown hfields hnodup hitems h hget⟩
  | @repeated items i t hget =>
      -- Tables under a repeated header are decoded as an array of tables.
      have hitems : ∀ n ∈ items.map (Node.table .header), n.Distinct := by
        intro n hn'
        rcases List.mem_map.1 hn' with ⟨u, hu, rfl⟩
        exact Toml.distinct_table_iff.2 (Toml.distinct_tables_iff.1 hn u hu)
      refine .inr ⟨_, rfl, fromItems_shown hfields hnodup hitems h ?_⟩
      rw [List.getElem?_map, hget, Option.map_some]

end Fields

end Settings

end PrintBridge
