import PrintBridge.Proofs.Settings.Decoding
import PrintBridge.Settings.Discovery

/-!
# Declared Places

What becomes of every place of a document that settings are read from.

A document is taken for settings only as a whole. So each place in it has to settle
something: a section, a setting in it, or the stream that is chosen by a key. A place
that could settle nothing, such as a key that is misspelt or stands in the wrong
section, makes the document one without settings, and whoever loads it fails. This
goes for tables of every kind and for arrays alike.

There is one exception. A section may be an array, and an array may have more items
than the section has fields. Those, with all that stands in them, are passed over.
`Surplus` is these places and no others. They are none of the declared ones, which
shows that an item there is lost.

## Main definitions

* `Settled`: A place settles a part of settings.
* `Declared`: A place at which something can be settled.
* `Surplus`: A place behind the fields of a section.
* `LoadsText`: Loading from a file with a content.

## Theorems

* `section_settles`: Each place of a section settles something or is surplus.
* `Declared.not_surplus`: No declared place is surplus.
* `places_settled`: The same for a whole document, and all others are refused.
* `fromItems_append`: What is surplus changes nothing.
-/

namespace PrintBridge

namespace Settings

open Toml (Node Step Table)

namespace Setting

/-- The section of a setting is there. -/
def Present : Setting → ProjectSettings → Prop
  | library, p => p.native.isSome
  | symbol, p => p.native.isSome
  | stream, p => p.output.isSome
  | level, p => p.log.isSome

/-- The steps to a setting in its section: by name, or by order. -/
inductive StandsAt (x : Setting) : Step → Prop where
  | name : StandsAt x (.key x.name)
  | order {i : Nat} (hget : (ofSection x.sectionName)[i]? = some x) : StandsAt x (.item i)

end Setting

/-- What stands at a place settles a part of settings. -/
inductive Settled (p : ProjectSettings) : List Step → Node → Prop where
  /-- A section is there. -/
  | present {x : Setting} {n : Node} (hpresent : x.Present p) : Settled p [.key x.sectionName] n
  /-- A setting has the text that the node gives. -/
  | value {x : Setting} {step : Step} {n : Node} {t : String} (hstep : x.StandsAt step)
      (hgives : x.Gives n t) (hvalue : x.value? p = some t) :
      Settled p [.key x.sectionName, step] n
  /-- The stream has the name of the key. -/
  | choice {step : Step} {n : Node} {t : String} (hstep : Setting.stream.StandsAt step)
      (hempty : isEmptyNode n = true) (hvalue : Setting.stream.value? p = some t) :
      Settled p [.key Setting.stream.sectionName, step, .key t] n

/-- A place at which settings can be given. -/
inductive Declared : List Step → Prop where
  | present (x : Setting) : Declared [.key x.sectionName]
  | value {x : Setting} {step : Step} (hstep : x.StandsAt step) :
      Declared [.key x.sectionName, step]
  | choice {step : Step} (hstep : Setting.stream.StandsAt step) (s : OutputStream) :
      Declared [.key Setting.stream.sectionName, step, .key s.name]

/-- A place behind the fields of a section that is an array, or inside of what stands
    there. -/
inductive Surplus : List Step → Prop where
  | behind (x : Setting) {i : Nat} (hbehind : (Setting.ofSection x.sectionName).length ≤ i)
      (rest : List Step) : Surplus (.key x.sectionName :: .item i :: rest)

variable {p q : ProjectSettings} {path : List Step} {n m : Node} {name : String}

theorem Settled.declared (h : Settled p path n) : Declared path := by
  cases h with
  | @present x _ _ => exact .present x
  | value hstep _ _ => exact .value hstep
  | choice hstep _ hvalue =>
      rcases Option.map_eq_some_iff.1 hvalue with ⟨s, -, rfl⟩
      exact .choice hstep s

theorem Setting.StandsAt.lt {x : Setting} {i : Nat} (h : x.StandsAt (.item i)) :
    i < (ofSection x.sectionName).length := by
  rcases h with _ | ⟨hget⟩
  exact (List.getElem?_eq_some_iff.1 hget).1

/-- A place behind all fields is no field's. -/
theorem Declared.not_surplus (h : Declared path) : ¬ Surplus path := by
  rintro ⟨y, hbehind, rest⟩
  -- The step into the section is an item in both, and its index cannot be both.
  generalize hplace : Step.key y.sectionName :: Step.item _ :: rest = place at h
  cases h with
  | present x => simp only [List.cons.injEq, reduceCtorEq, and_false] at hplace
  | value hstep =>
      simp only [List.cons.injEq, Step.key.injEq] at hplace
      obtain ⟨hsection, rfl, -⟩ := hplace
      exact absurd (hsection ▸ hstep.lt) (Nat.not_lt.2 hbehind)
  | choice hstep s =>
      simp only [List.cons.injEq, Step.key.injEq] at hplace
      obtain ⟨hsection, rfl, -⟩ := hplace
      exact absurd (hsection ▸ hstep.lt) (Nat.not_lt.2 hbehind)

/-- What a place settles does not depend on other sections. -/
theorem Settled.congr (h : Settled p (.key name :: path) m)
    (hsame : ∀ x : Setting, x.sectionName = name →
      x.value? q = x.value? p ∧ (x.Present p → x.Present q)) :
    Settled q (.key name :: path) m := by
  generalize hplace : Step.key name :: path = place at h
  cases h with
  | present hpresent =>
      have hsection := (Step.key.inj (List.cons.inj hplace).1).symm
      exact .present ((hsame _ hsection).2 hpresent)
  | value hstep hgives hvalue =>
      have hsection := (Step.key.inj (List.cons.inj hplace).1).symm
      exact .value hstep hgives ((hsame _ hsection).1.trans hvalue)
  | choice hstep hempty hvalue =>
      have hsection := (Step.key.inj (List.cons.inj hplace).1).symm
      exact .choice hstep hempty ((hsame _ hsection).1.trans hvalue)

/-- Nothing stands in an empty node. -/
theorem childless_of_isEmptyNode (h : isEmptyNode n = true) (step : Step) (child : Node) :
    ¬ n.Child step child := by
  rintro (⟨hmem⟩ | ⟨hget⟩ | ⟨hget⟩)
  · exact absurd hmem (List.isEmpty_iff.1 h ▸ List.not_mem_nil)
  · rw [List.isEmpty_iff.1 h] at hget
    exact absurd hget (by simp only [List.getElem?_nil, reduceCtorEq, not_false_eq_true])
  · rw [List.isEmpty_iff.1 h] at hget
    exact absurd hget (by simp only [List.getElem?_nil, reduceCtorEq, not_false_eq_true])

/-- Whatever stands in a node that gives a text settles the setting. -/
theorem settled_of_gives {x : Setting} {step : Step} {t : String} (hstep : x.StandsAt step)
    (hgives : x.Gives n t) (hvalue : x.value? p = some t) (hat : n.At path m) :
    Settled p (.key x.sectionName :: step :: path) m := by
  cases hat with
  | here => exact .value hstep hgives hvalue
  | inside hchild hat =>
      cases hgives with
      | text => exact nomatch hchild
      | choice origin name value hempty =>
          -- The one key chooses the stream, and nothing stands behind it.
          rcases hchild with ⟨hmem⟩
          obtain ⟨rfl, rfl⟩ := Prod.mk.inj (List.mem_singleton.1 hmem)
          obtain ⟨rfl, rfl⟩ := hat.of_childless (childless_of_isEmptyNode hempty)
          exact .choice hstep hempty hvalue

/-- A section has settings say, under the name of a field, what the field was given. -/
def Says (sectionName : String) (p : ProjectSettings) (name : String) (n : Node) : Prop :=
  ∀ x : Setting, x.sectionName = sectionName → x.name = name →
    ∃ t, x.Gives n t ∧ x.value? p = some t

theorem Setting.name_injective {x y : Setting} (h : x.name = y.name) : x = y := by
  cases x <;> cases y <;> first | rfl | exact absurd h (by decide)

/-- A field that decodes a node and sets one setting to that. -/
theorem field_shown {σ α : Type} {embed : σ → ProjectSettings} {decode : Node → Decoding α}
    {set : α → σ → σ} {spelled : α → String} (sectionName : String) (x : Setting)
    (hdecode : ∀ n a, decode n = .ok a → x.Gives n (spelled a))
    (hset : ∀ a s, x.value? (embed (set a s)) = some (spelled a))
    (hothers : ∀ a s y, y ≠ x → y.value? (embed (set a s)) = y.value? (embed s)) :
    Field.Shown (fun name n s => Says sectionName (embed s) name n)
      ⟨x.name, fun n s => (decode n).map fun a => set a s⟩ := by
  refine ⟨fun _ htake y _ hname => ?_, fun htake name m hother hsays y hsection hname => ?_⟩
  · rcases map_eq_ok_iff.1 htake with ⟨a, hread, rfl⟩
    obtain rfl := Setting.name_injective hname
    exact ⟨_, hdecode _ a hread, hset a _⟩
  · rcases map_eq_ok_iff.1 htake with ⟨a, -, rfl⟩
    have hne : y ≠ x := fun heq => hother (heq ▸ hname.symm)
    rcases hsays y hsection hname with ⟨t, hgives, hvalue⟩
    exact ⟨t, hgives, (hothers a _ y hne).trans hvalue⟩

theorem text_gives (x : Setting) (n : Node) (t : String) (h : text n = .ok t) : x.Gives n t := by
  rw [text_eq_ok_iff.1 h]
  exact .text x t

theorem nativeFields_shown (p : ProjectSettings) : ∀ f ∈ nativeFields,
    f.Shown fun name n s => Says "native" { p with native := some s } name n := by
  intro f hf
  simp only [nativeFields, List.mem_cons, List.not_mem_nil, or_false] at hf
  rcases hf with rfl | rfl
  · refine field_shown "native" .library (text_gives _) (fun _ _ => rfl) fun a s y hy => ?_
    cases y <;> first | rfl | exact absurd rfl hy
  · refine field_shown "native" .symbol (text_gives _) (fun _ _ => rfl) fun a s y hy => ?_
    cases y <;> first | rfl | exact absurd rfl hy

theorem outputFields_shown (p : ProjectSettings) : ∀ f ∈ outputFields,
    f.Shown fun name n s => Says "output" { p with output := some s } name n := by
  intro f hf
  obtain rfl := List.mem_singleton.1 hf
  refine field_shown "output" .stream (fun _ _ => stream_eq_ok_iff.1) (fun _ _ => rfl)
    fun a s y hy => ?_
  cases y <;> first | rfl | exact absurd rfl hy

theorem logFields_shown (p : ProjectSettings) : ∀ f ∈ logFields,
    f.Shown fun name n s => Says "log" { p with log := some s } name n := by
  intro f hf
  obtain rfl := List.mem_singleton.1 hf
  refine field_shown "log" .level (text_gives _) (fun _ _ => rfl) fun a s y hy => ?_
  cases y <;> first | rfl | exact absurd rfl hy

/-- Each place of a section settles something or is surplus. -/
def Settles (p : ProjectSettings) (sectionName : String) (n : Node) : Prop :=
  ∀ path m, n.At path m →
    Settled p (.key sectionName :: path) m ∨ Surplus (.key sectionName :: path)

section Sections

variable {σ : Type} {fields : List (Field σ)} {s s' : σ} {structName : String}

/-- A section settles its settings if these are what its fields are for. -/
theorem section_settles (embed : σ → ProjectSettings) (x : Setting)
    (hfields : ∀ f ∈ fields, f.Shown fun name n s => Says x.sectionName (embed s) name n)
    (hnames : fields.map Field.name = (Setting.ofSection x.sectionName).map Setting.name)
    (hpresent : x.Present (embed s')) (hn : n.Distinct)
    (h : decodeSection structName fields s n = .ok s') : Settles (embed s') x.sectionName n := by
  have hlength : fields.length = (Setting.ofSection x.sectionName).length := by
    rw [← List.length_map Field.name, hnames, List.length_map]
  have hnodup : (fields.map Field.name).Nodup := by
    rw [hnames]
    exact (List.Nodup.filter _ (by decide)).map fun _ _ => Setting.name_injective
  intro path m hat
  cases hat with
  | here => exact .inl (.present hpresent)
  | inside hchild hat =>
      -- A child is a field by name, an item behind the fields, or a field by order.
      rcases decodeSection_shown hfields hnodup hn h hchild with
        ⟨f, hf, rfl, hsays⟩ | ⟨i, rfl, hbehind | ⟨f, hget, hsays⟩⟩
      · rcases List.mem_map.1 (hnames ▸ List.mem_map_of_mem hf) with ⟨y, hy, hname⟩
        have hsection := Setting.mem_ofSection.1 hy
        rcases hsays y hsection hname with ⟨t, hgives, hvalue⟩
        rw [← hsection, ← hname]
        exact .inl (settled_of_gives .name hgives hvalue hat)
      · exact .inr (.behind x (hlength ▸ hbehind) _)
      · have hfield := congrArg (fun names : List String => names[i]?) hnames
        simp only [List.getElem?_map, hget, Option.map_some] at hfield
        rcases Option.map_eq_some_iff.1 hfield.symm with ⟨y, hy, hname⟩
        have hsection := Setting.mem_ofSection.1 (List.mem_of_getElem? hy)
        rcases hsays y hsection hname with ⟨t, hgives, hvalue⟩
        rw [← hsection] at hy ⊢
        exact .inl (settled_of_gives (.order hy) hgives hvalue hat)

/-- A field of a document that decodes a section and leaves the others as they are. -/
theorem section_shown {put : σ → ProjectSettings → ProjectSettings} (x : Setting)
    (hfields : ∀ p, ∀ f ∈ fields, f.Shown fun name n s => Says x.sectionName (put s p) name n)
    (hnames : fields.map Field.name = (Setting.ofSection x.sectionName).map Setting.name)
    (hpresent : ∀ s p, x.Present (put s p))
    (hothers : ∀ s p (y : Setting), y.sectionName ≠ x.sectionName →
      y.value? (put s p) = y.value? p ∧ (y.Present p → y.Present (put s p))) :
    Field.Shown (fun name n p => Settles p name n)
      ⟨x.sectionName, fun n p => (decodeSection structName fields s n).map fun s => put s p⟩ := by
  refine ⟨fun {n p p'} hn htake => ?_, fun htake name m hother hsettles path k hat => ?_⟩
  · rcases map_eq_ok_iff.1 htake with ⟨decoded, hsection, rfl⟩
    exact section_settles (fun s => put s p) x (hfields p) hnames (hpresent _ _) hn hsection
  · rcases map_eq_ok_iff.1 htake with ⟨decoded, -, rfl⟩
    refine (hsettles path k hat).imp_left fun h => h.congr fun y hsection => ?_
    exact hothers _ _ y (hsection ▸ hother)

end Sections

theorem sections_shown : ∀ f ∈ sections, f.Shown fun name n p => Settles p name n := by
  intro f hf
  simp only [sections, List.mem_cons, List.not_mem_nil, or_false] at hf
  rcases hf with rfl | rfl | rfl
  · refine section_shown .symbol nativeFields_shown (by decide) (fun _ _ => rfl) fun s p y hy => ?_
    cases y <;> first | exact absurd rfl hy | exact ⟨rfl, id⟩
  · refine section_shown .stream outputFields_shown (by decide) (fun _ _ => rfl) fun s p y hy => ?_
    cases y <;> first | exact absurd rfl hy | exact ⟨rfl, id⟩
  · refine section_shown .level logFields_shown (by decide) (fun _ _ => rfl) fun s p y hy => ?_
    cases y <;> first | exact absurd rfl hy | exact ⟨rfl, id⟩

/-- A text gives the settings of the document that it says. -/
theorem ofText_of_read? {content : String} {doc : Table}
    (hread : Toml.Document.read? content = some doc) :
    ProjectSettings.ofText content = ProjectSettings.ofTable doc := by
  rw [ProjectSettings.ofText, hread]

/-- Each place of a document settles something or is surplus. -/
theorem ofTable_settles {doc : Table} (hdoc : doc.Distinct)
    (h : ProjectSettings.ofTable doc = .ok p) (hat : (Node.table .header doc).At path n) :
    path = [] ∨ Settled p path n ∨ Surplus path := by
  cases hat with
  | here => exact .inl rfl
  | inside hchild hat =>
      rcases hchild with ⟨hmem⟩
      rcases fromEntries_shown sections_shown hdoc h _ hmem with ⟨f, -, rfl, hsettles⟩
      exact .inr (hsettles _ _ hat)

/-- Loading from a file with a content, which is named or found for a directory. -/
inductive LoadsText (files : Files) (o : Overrides) (content : String) :
    Path → Except SettingsError Settings → Prop where
  | file {path : Path} (hread : files.readText path = .ok content) :
      LoadsText files o content path (fromFile files o path)
  | directory {start directory : Path} (hfind : findRoot? files start = some directory)
      (hread : files.readText (fileIn directory) = .ok content) :
      LoadsText files o content (fileIn directory) (fromDirectory files o start)

/-- A content without settings is refused, whatever the environment. -/
theorem LoadsText.malformed {files : Files} {o : Overrides} {content : String} {file : Path}
    {load : Except SettingsError Settings} {detail : Option String}
    (h : LoadsText files o content file load)
    (hparse : ProjectSettings.ofText content = .error detail) :
    load = .error (.malformed file detail) := by
  cases h with
  | file hread => simp only [fromFile, readFile, hread, hparse, bind, Except.bind]
  | directory hfind hread =>
      simp only [fromDirectory, hfind, readFile, hread, hparse, bind, Except.bind]

/-- In a document that settings are read from, each place settles a part of them,
    unless it is surplus. A document with a place that is neither declared nor
    surplus is refused by all who load it. -/
theorem places_settled {content : String} {doc : Table}
    (hread : Toml.Document.read? content = some doc) :
    (∀ p, ProjectSettings.ofText content = .ok p → ∀ path n, (Node.table .header doc).At path n →
      path = [] ∨ Settled p path n ∨ Surplus path) ∧
      ((∃ path n, (Node.table .header doc).At path n ∧
          path ≠ [] ∧ ¬ Declared path ∧ ¬ Surplus path) →
        ∃ detail, ProjectSettings.ofText content = .error detail ∧
          ∀ files o file load, LoadsText files o content file load →
            load = .error (.malformed file detail)) := by
  have hsettles : ∀ p, ProjectSettings.ofText content = .ok p → ∀ path n,
      (Node.table .header doc).At path n → path = [] ∨ Settled p path n ∨ Surplus path :=
    fun p hp path n hat =>
      ofTable_settles (Toml.Document.read?_distinct hread) (ofText_of_read? hread ▸ hp) hat
  refine ⟨hsettles, ?_⟩
  rintro ⟨path, n, hat, hinside, hundeclared, hwithin⟩
  -- Had the document been accepted, the place would settle something.
  cases hresult : ProjectSettings.ofText content with
  | error detail => exact ⟨detail, rfl, fun files o file load hload => hload.malformed hresult⟩
  | ok p =>
      rcases hsettles p hresult path n hat with hroot | hsettled | hsurplus
      · exact absurd hroot hinside
      · exact absurd hsettled.declared hundeclared
      · exact absurd hsurplus hwithin

/-- Of two keys, the one is a section and the other a setting in it. -/
theorem declared_keys_iff {sectionName key : String} :
    Declared [.key sectionName, .key key] ↔
      ∃ x : Setting, x.sectionName = sectionName ∧ x.name = key := by
  constructor
  · generalize hplace : [Step.key sectionName, Step.key key] = place
    rintro (_ | @⟨x, step, _ | _⟩ | _)
    · simp only [List.cons.injEq, reduceCtorEq, and_false] at hplace
    · simp only [List.cons.injEq, Step.key.injEq, and_true] at hplace
      exact ⟨x, hplace.1.symm, hplace.2.symm⟩
    · simp only [List.cons.injEq, reduceCtorEq, false_and, and_false] at hplace
    · simp only [List.cons.injEq, reduceCtorEq, and_false] at hplace
  · rintro ⟨x, rfl, rfl⟩
    exact .value .name

/-- A document with an array, dotted keys, an inline table and a header. -/
def mixedText : String :=
  "log = [\"debug\"]\noutput.stream = \x7b stderr = [] \x7d\n[native]\nsymbol = 'printf'"

/-- A document with a setting in the wrong section. -/
def misplacedText : String := "[output]\nstream = \"stderr\"\nlevel = \"debug\""

/-- All places of the one document settle something, and the other is refused. -/
theorem places_settled_mixed :
    (∃ doc p, Toml.Document.read? mixedText = some doc ∧ ProjectSettings.ofText mixedText = .ok p ∧
      ∀ path n, (Node.table .header doc).At path n →
        path = [] ∨ Settled p path n ∨ Surplus path) ∧
      ∃ detail, ProjectSettings.ofText misplacedText = .error detail ∧
        ∀ files o file load, LoadsText files o misplacedText file load →
          load = .error (.malformed file detail) := by
  have hmixed : Toml.Document.read? mixedText = some
      [("log", .array [.string "debug"]),
        ("output", .table .dotted [("stream", .table .inline [("stderr", .array [])])]),
        ("native", .table .header [("symbol", .string "printf")])] := by
    with_unfolding_all rfl
  have hmisplaced : Toml.Document.read? misplacedText = some
      [("output", .table .header [("stream", .string "stderr"), ("level", .string "debug")])] := by
    with_unfolding_all rfl
  have hsettings : ProjectSettings.ofText mixedText =
      .ok ⟨some ⟨none, some "printf"⟩, some ⟨some .stderr⟩, some ⟨some "debug"⟩⟩ := by
    rw [ofText_of_read? hmixed]
    rfl
  refine ⟨⟨_, _, hmixed, hsettings, (places_settled hmixed).1 _ hsettings⟩, ?_⟩
  refine (places_settled hmisplaced).2 ⟨[.key "output", .key "level"], .string "debug", ?_, ?_⟩
  · exact .inside (.entry (.head _)) (.inside (.entry (.tail _ (.head _))) .here)
  · refine ⟨List.cons_ne_nil _ _, fun h => ?_, fun h => ?_⟩
    · rcases declared_keys_iff.1 h with ⟨x, hsection, hname⟩
      cases x <;> first | exact absurd hsection (by decide) | exact absurd hname (by decide)
    · generalize hplace : [Step.key "output", Step.key "level"] = place at h
      rcases h with ⟨x, hbehind, rest⟩
      simp only [List.cons.injEq, reduceCtorEq, false_and, and_false] at hplace

/-- Whatever stands in an array behind the fields is dropped. -/
theorem fromItems_append {σ : Type} {fields : List (Field σ)} {items : List Node} (s : σ)
    (hfull : fields.length ≤ items.length) (more : List Node) :
    fromItems s fields (items ++ more) = fromItems s fields items := by
  induction fields generalizing s items with
  | nil => rw [fromItems, fromItems]
  | cons f others ih =>
      cases items with
      | nil => exact absurd hfull (Nat.not_succ_le_zero _)
      | cons item left =>
          rw [List.cons_append, fromItems, fromItems]
          congr 1
          funext between
          exact ih between (Nat.le_of_succ_le_succ hfull)

/-- So an accepted document may have a place that settles nothing. -/
theorem third_item_settles_nothing :
    ¬ ∀ content doc p, Toml.Document.read? content = some doc →
      ProjectSettings.ofText content = .ok p → ∀ path n, (Node.table .header doc).At path n →
        path = [] ∨ Settled p path n := by
  intro h
  have hread : Toml.Document.read? "native = [\"a\", \"b\", \"c\"]" =
      some [("native", .array [.string "a", .string "b", .string "c"])] := by with_unfolding_all rfl
  have hparse : ProjectSettings.ofText "native = [\"a\", \"b\", \"c\"]" =
      .ok { native := some ⟨some "a", some "b"⟩ } := by
    rw [ofText_of_read? hread]
    rfl
  rcases h _ _ _ hread hparse [.key "native", .item 2] (.string "c")
    (.inside (.entry (.head _)) (.inside (.item rfl) .here)) with hroot | hsettled
  · exact absurd hroot (List.cons_ne_nil _ _)
  · exact hsettled.declared.not_surplus (.behind .library (by decide) [])

end Settings

end PrintBridge
