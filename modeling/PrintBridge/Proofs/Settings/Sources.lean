import PrintBridge.Proofs.Settings.Declared
import PrintBridge.Proofs.Settings.Precedence
import PrintBridge.Proofs.Toml.Escapes

/-!
# File and Variable

A setting in the file against the same text in its variable.

Each setting has two ways in, and they are made separately: the decoder with the
check of the file, and the override with its own check. Three settings are texts on
both ways, and the checks come to the same. A stream is not. In a variable its name
may have any case, and in the file it has to be in small letters. So a file with one
setting loads exactly if the variable alone does, and if the text is a stream's then
only if folding its case changes nothing. Where both load, all that is effective is
the same.

The file may be laid out in many ways. A section may be a table of any kind or, with
a single field, an array, and sections without fields may stand around it. All of
these decode to settings with one text in them (`ofTable_givesOnly`), and only these
settings are compared. No text is out of reach in a file, since every character can
be escaped.

## Main definitions

* `Setting.HoldsOnly`, `GivesOnly`: A document with one setting.
* `Overrides.only`: One variable.
* `Setting.Decodes`, `Setting.Admits`: The texts that pass in the file, and in the
  variable.
* `SameEffect`: All that is effective is the same.

## Theorems

* `ofTable_givesOnly`: What a document with one setting gives.
* `only_valid_iff`, `valid_iff_of_value?`: When either is valid.
* `exists_givesOnly`: Every text has a document.
* `file_agrees_with_variable`: The two come to the same but for streams in capitals.
-/

namespace PrintBridge

/-- One variable with a text, the others unset. -/
def Overrides.only : Settings.Setting → String → Overrides
  | .library, t => { library := some t }
  | .symbol, t => { symbol := some t }
  | .stream, t => { output := some t }
  | .level, t => { log := some t }

namespace Settings

open Toml (Node Table Origin)

variable {x : Setting} {t : String} {p q : ProjectSettings}

/-- A section with one setting in it, which has a text. -/
inductive Setting.HoldsOnly (x : Setting) (t : String) : Node → Prop where
  | table (origin : Origin) : HoldsOnly x t (.table origin [(x.name, .string t)])
  | array (hsingle : Setting.ofSection x.sectionName = [x]) : HoldsOnly x t (.array [.string t])

/-- An entry for a section without fields. -/
structure Bare (e : String × Node) : Prop where
  known : ∃ y : Setting, y.sectionName = e.1
  empty : ∃ origin, e.2 = .table origin []

/-- A document with one setting in it, which has a text. Other sections may be there,
    without fields. -/
inductive GivesOnly (x : Setting) (t : String) : Table → Prop where
  | among (front back : Table) {n : Node} (hsection : x.HoldsOnly t n)
      (hbare : ∀ e ∈ front ++ back, Bare e ∧ e.1 ≠ x.sectionName) :
      GivesOnly x t (front ++ (x.sectionName, n) :: back)

/-- The texts that a variable may have. -/
def Setting.Admits : Setting → String → Prop
  | library, t => LibraryValid t
  | symbol, t => SymbolValid t
  | stream, t => ∃ s : OutputStream, Text.lowercase t = s.name
  | level, t => LevelValid t

section Entries

variable {σ : Type} {fields : List (Field σ)}

/-- An entry under the name of a field is taken by that field. -/
theorem fromEntries_of_mem (hnodup : (fields.map Field.name).Nodup) {f : Field σ} (hf : f ∈ fields)
    (value : Node) (rest : Table) (s : σ) :
    fromEntries fields s ((f.name, value) :: rest) =
      (f.take value s).bind fun s => fromEntries fields s rest := by
  have hfound : (fields.find? fun g => g.name == f.name).isSome :=
    List.find?_isSome.2 ⟨f, hf, beq_self_eq_true _⟩
  rcases Option.isSome_iff_exists.1 hfound with ⟨g, hg⟩
  have hname := List.find?_some hg
  have hsame : g = f := List.inj_on_of_nodup_map hnodup (List.mem_of_find?_eq_some hg) hf
    (beq_iff_eq.1 hname)
  rw [fromEntries, hg, hsame]

theorem fromEntries_append (front back : Table) (s : σ) :
    fromEntries fields s (front ++ back) =
      (fromEntries fields s front).bind fun s => fromEntries fields s back := by
  induction front generalizing s with
  | nil => rfl
  | cons e rest ih =>
      rw [List.cons_append, fromEntries, fromEntries]
      split
      · rename_i f _
        cases f.take e.2 s with
        | error _ => rfl
        | ok between => exact ih between
      · rfl

end Entries

theorem sections_nodup : (sections.map Field.name).Nodup := by decide

/-- A section without fields clears its settings and leaves the others. -/
theorem take_bare {f : Field ProjectSettings} (hf : f ∈ sections) (origin : Origin)
    (p : ProjectSettings) :
    ∃ q, f.take (.table origin []) p = .ok q ∧
      ∀ y : Setting, y.value? q = if y.sectionName = f.name then none else y.value? p := by
  simp only [sections, List.mem_cons, List.not_mem_nil, or_false] at hf
  rcases hf with rfl | rfl | rfl
  · refine ⟨_, rfl, fun y => ?_⟩
    cases y <;> rfl
  · refine ⟨_, rfl, fun y => ?_⟩
    cases y <;> rfl
  · refine ⟨_, rfl, fun y => ?_⟩
    cases y <;> rfl

/-- A text that the file may give to a setting as far as decoding goes. -/
def Setting.Decodes (x : Setting) (t : String) : Prop :=
  x = .stream → ∃ s : OutputStream, t = s.name

/-- The section of a stream decodes if its text is the name of one. -/
theorem take_stream {n : Node} (h : Setting.stream.HoldsOnly t n) (p : ProjectSettings) :
    (decodeSection "OutputConfig" outputFields {} n).map (fun s => { p with output := some s }) =
      (streamNamed t).map fun s => { p with output := some ⟨some s⟩ } := by
  cases h with
  | table origin =>
      change Except.map _ (Except.bind (Except.map _ (streamNamed t)) _) = _
      cases streamNamed t <;> rfl
  | array _ =>
      change Except.map _ (Except.bind (Except.map _ (streamNamed t)) _) = _
      cases streamNamed t <;> rfl

/-- A section with one setting in it sets that, clears what else is in the section, and
    leaves the others. Only the text of a stream can be refused. -/
theorem take_holdsOnly {n : Node} (h : x.HoldsOnly t n) :
    ∃ f ∈ sections, f.name = x.sectionName ∧ ∀ p,
      (∃ q, f.take n p = .ok q ∧ x.Decodes t ∧ ∀ y : Setting, y.value? q =
        if y = x then some t else if y.sectionName = x.sectionName then none else y.value? p) ∨
      (¬ x.Decodes t ∧ ∃ detail, f.take n p = .error detail) := by
  cases x with
  | library =>
      rcases h with origin | hsingle
      · refine ⟨_, .head _, rfl, fun p => .inl ⟨_, rfl, nofun, fun y => ?_⟩⟩
        cases y <;> rfl
      · exact absurd hsingle (by decide)
  | symbol =>
      rcases h with origin | hsingle
      · refine ⟨_, .head _, rfl, fun p => .inl ⟨_, rfl, nofun, fun y => ?_⟩⟩
        cases y <;> rfl
      · exact absurd hsingle (by decide)
  | level =>
      rcases h with origin | hsingle
      · refine ⟨_, .tail _ (.tail _ (.head _)), rfl, fun p => .inl ⟨_, rfl, nofun, fun y => ?_⟩⟩
        cases y <;> rfl
      · refine ⟨_, .tail _ (.tail _ (.head _)), rfl, fun p => .inl ⟨_, rfl, nofun, fun y => ?_⟩⟩
        cases y <;> rfl
  | stream =>
      refine ⟨_, .tail _ (.head _), rfl, fun p => ?_⟩
      -- Here decoding can fail, so the two outcomes are told apart.
      simp only [take_stream h p]
      cases hnamed : streamNamed t with
      | ok s =>
          obtain rfl := streamNamed_eq_ok_iff.1 hnamed
          refine .inl ⟨_, rfl, fun _ => ⟨s, rfl⟩, fun y => ?_⟩
          cases y <;> rfl
      | error detail =>
          refine .inr ⟨fun hdecodes => ?_, detail, rfl⟩
          rcases hdecodes rfl with ⟨s, hs⟩
          rw [streamNamed_eq_ok_iff.2 hs] at hnamed
          exact absurd hnamed (by simp only [reduceCtorEq, not_false_eq_true])

/-- Sections without fields leave what they are not about. -/
theorem fromEntries_bare (entries : Table) (hbare : ∀ e ∈ entries, Bare e) (p : ProjectSettings) :
    ∃ q, fromEntries sections p entries = .ok q ∧ ∀ y : Setting,
      y.value? q = if y.sectionName ∈ entries.map Prod.fst then none else y.value? p := by
  induction entries generalizing p with
  | nil => exact ⟨p, rfl, fun y => (if_neg List.not_mem_nil).symm⟩
  | cons e rest ih =>
      rcases e with ⟨key, n⟩
      rcases hbare _ List.mem_cons_self with ⟨⟨x, hx⟩, origin, hn⟩
      have hmem : ∃ f ∈ sections, f.name = key := by
        rw [← List.mem_map, ← show x.sectionName = key from hx]
        cases x <;> decide
      rcases hmem with ⟨f, hf, rfl⟩
      rcases take_bare hf origin p with ⟨between, htake, hbetween⟩
      rcases ih (fun d hd => hbare d (List.mem_cons_of_mem _ hd)) between with ⟨q, hq, hvalues⟩
      refine ⟨q, ?_, fun y => ?_⟩
      · rw [fromEntries_of_mem sections_nodup hf, show n = .table origin [] from hn, htake]
        exact hq
      · have hmem : y.sectionName ∈ ((f.name, n) :: rest).map Prod.fst ↔
            y.sectionName = f.name ∨ y.sectionName ∈ rest.map Prod.fst := List.mem_cons
        rw [hvalues, hbetween]
        by_cases hlater : y.sectionName ∈ rest.map Prod.fst
        · rw [if_pos hlater, if_pos (hmem.2 (.inr hlater))]
        · rw [if_neg hlater]
          by_cases hhere : y.sectionName = f.name
          · rw [if_pos hhere, if_pos (hmem.2 (.inl hhere))]
          · rw [if_neg hhere, if_neg (mt hmem.1 (not_or.2 ⟨hhere, hlater⟩))]

/-- A document with one setting gives that setting and no other, and it is refused
    only if the text of a stream is not the name of one. -/
theorem ofTable_givesOnly {doc : Table} (h : GivesOnly x t doc) :
    (∃ p, ProjectSettings.ofTable doc = .ok p ∧ x.Decodes t ∧
      ∀ y : Setting, y.value? p = if y = x then some t else none) ∨
      (¬ x.Decodes t ∧ ∃ detail, ProjectSettings.ofTable doc = .error detail) := by
  rcases h with ⟨front, back, hsection, hbare⟩
  rcases fromEntries_bare front (fun e he => (hbare e (List.mem_append_left _ he)).1) {} with
    ⟨p, hp, hfront⟩
  rcases take_holdsOnly hsection with ⟨f, hf, hname, htake⟩
  rw [ProjectSettings.ofTable, fromEntries_append, hp, Except.bind, ← hname,
    fromEntries_of_mem sections_nodup hf]
  rcases htake p with ⟨q, hq, hdecodes, hvalues⟩ | ⟨hrefused, detail, herror⟩
  · -- Nothing is set before the section, and what it sets stays behind it.
    rcases fromEntries_bare back (fun e he => (hbare e (List.mem_append_right _ he)).1) q with
      ⟨r, hr, hback⟩
    refine .inl ⟨r, by rw [hq, Except.bind, hr], hdecodes, fun y => ?_⟩
    have hunset : ∀ y : Setting, y.value? p = none := by
      intro y
      rw [hfront]
      split
      · rfl
      · cases y <;> rfl
    have hkept : x.sectionName ∉ back.map Prod.fst := by
      intro hmem
      rcases List.mem_map.1 hmem with ⟨e, he, heq⟩
      exact (hbare e (List.mem_append_right _ he)).2 heq
    rw [hback, hvalues, hunset, ite_self]
    by_cases hy : y = x
    · rw [hy, if_neg hkept]
    · rw [if_neg hy, ite_self]
  · exact .inr ⟨hrefused, detail, by rw [herror, Except.bind]⟩

/-- An override alone is valid if its variable may have the text. -/
theorem only_valid_iff : (Overrides.only x t).Valid ↔ x.Admits t := by
  constructor
  · intro h
    cases x with
    | library => exact h.library t rfl
    | symbol => exact h.symbol t rfl
    | stream => exact h.output t rfl
    | level => exact h.level t rfl
  · intro h
    cases x with
    | library => exact ⟨nofun, fun s hs => Option.some.inj hs ▸ h, nofun, nofun⟩
    | symbol => exact ⟨fun s hs => Option.some.inj hs ▸ h, nofun, nofun, nofun⟩
    | stream => exact ⟨nofun, nofun, fun s hs => Option.some.inj hs ▸ h, nofun⟩
    | level => exact ⟨nofun, nofun, nofun, fun s hs => Option.some.inj hs ▸ h⟩

/-- Settings with one text in them are valid if the variable may have the text. A
    stream in them is valid by itself. -/
theorem valid_iff_of_value? (h : ∀ y : Setting, y.value? p = if y = x then some t else none) :
    p.Valid ↔ (x ≠ .stream → x.Admits t) := by
  have hlibrary := h .library
  have hsymbol := h .symbol
  have hlevel := h .level
  simp only [Setting.value?] at hlibrary hsymbol hlevel
  constructor
  · intro hp hx
    cases x with
    | library => exact hp.library t hlibrary
    | symbol => exact hp.symbol t hsymbol
    | stream => exact absurd rfl hx
    | level => exact hp.level t hlevel
  · intro hx
    refine ⟨fun s hs => ?_, fun s hs => ?_, fun s hs => ?_⟩
    · rw [hsymbol, Option.ite_none_right_eq_some] at hs
      rcases hs with ⟨rfl, heq⟩
      exact Option.some.inj heq ▸ hx (by decide)
    · rw [hlibrary, Option.ite_none_right_eq_some] at hs
      rcases hs with ⟨rfl, heq⟩
      exact Option.some.inj heq ▸ hx (by decide)
    · rw [hlevel, Option.ite_none_right_eq_some] at hs
      rcases hs with ⟨rfl, heq⟩
      exact Option.some.inj heq ▸ hx (by decide)

theorem lowercase_name (s : OutputStream) : Text.lowercase s.name = s.name := by
  cases s <;> decide +kernel

theorem name_injective {s s' : OutputStream} (h : s.name = s'.name) : s = s' := by
  cases s <;> cases s' <;> first | rfl | exact absurd h (by decide)

/-- What decodes and is valid is what a variable may have, but for a stream with
    capitals in its name. -/
theorem decodes_and_admits_iff :
    x.Decodes t ∧ (x ≠ .stream → x.Admits t) ↔
      x.Admits t ∧ (x = .stream → Text.lowercase t = t) := by
  by_cases hx : x = .stream
  · -- For a stream both sides say that the text is the name of one.
    subst hx
    constructor
    · rintro ⟨hdecodes, -⟩
      rcases hdecodes rfl with ⟨s, rfl⟩
      exact ⟨⟨s, lowercase_name s⟩, fun _ => lowercase_name s⟩
    · rintro ⟨⟨s, hs⟩, hfolded⟩
      exact ⟨fun _ => ⟨s, (hfolded rfl).symm.trans hs⟩, fun h => absurd rfl h⟩
  · exact ⟨fun h => ⟨h.2 hx, fun h => absurd h hx⟩, fun h => ⟨fun h => absurd h hx, fun _ => h.1⟩⟩

theorem LoadsText.loading {files : Files} {e : Environment} {content : String} {file : Path}
    {load : Except SettingsError Settings}
    (h : LoadsText files (.ofEnvironment e) content file load)
    (hparse : ProjectSettings.ofText content = .ok p) : ∃ root, Loading files e p root load := by
  cases h with
  | file hread => exact ⟨_, .file hread hparse⟩
  | directory hfind hread => exact ⟨_, .directory hfind hread hparse⟩

/-- Settings in which all that is effective is the same. -/
structure SameEffect (s s' : Settings) : Prop where
  symbol : s.symbol = s'.symbol
  library : s.library = s'.library
  outputStream : s.outputStream = s'.outputStream
  level : s.level = s'.level

/-- A text in the file has the effect that it has as an override. -/
theorem sameEffect_of_value? {s s' : Settings}
    (h : ∀ y : Setting, y.value? p = if y = x then some t else none)
    (hfile : Effective {} p s) (hvariable : Effective (.only x t) {} s') : SameEffect s s' := by
  have hsymbol : p.effectiveNative.symbol = (Overrides.only x t).symbol :=
    (h .symbol).trans (by cases x <;> rfl)
  have hlibrary : p.effectiveNative.library = (Overrides.only x t).library :=
    (h .library).trans (by cases x <;> rfl)
  have hstream : p.stream?.map OutputStream.name = (Overrides.only x t).output :=
    (h .stream).trans (by cases x <;> rfl)
  have hlevel : p.level? = (Overrides.only x t).log := (h .level).trans (by cases x <;> rfl)
  refine ⟨?_, ?_, ?_, ?_⟩
  · rw [hfile.symbol, hvariable.symbol, hsymbol]
    cases (Overrides.only x t).symbol <;> rfl
  · rw [hfile.library, hvariable.library, hlibrary]
    cases (Overrides.only x t).library <;> rfl
  · rw [hfile.stream_kept rfl]
    cases hgiven : p.stream? with
    | none =>
        rw [hgiven] at hstream
        rw [hvariable.stream_kept hstream.symm]
        rfl
    | some stream =>
        -- The variable names the stream that its folded text names.
        rw [hgiven] at hstream
        have hname := hvariable.stream_replaced _ hstream.symm
        exact name_injective ((lowercase_name stream).symm.trans hname)
  · rw [hfile.level, hvariable.level, hlevel]
    cases (Overrides.only x t).log <;> rfl

/-- A setting with a text on a single line, every character of the text escaped. -/
def Setting.line (x : Setting) (t : String) : String :=
  String.ofList (x.sectionName.toList ++ '.' :: (x.name.toList ++
    '=' :: '"' :: (t.toList.flatMap Toml.escaped ++ ['"'])))

theorem key?_dotted (x : Setting) (rest : List Char) :
    Toml.key? (x.sectionName.toList ++ '.' :: (x.name.toList ++ '=' :: rest)) =
      some (([x.sectionName], x.name), '=' :: rest) := by
  cases x <;> rfl

theorem line?_assigned (x : Setting) (t : String) :
    Toml.line? .start (x.line t).toList =
      some (⟨[], [(x.sectionName, .table .dotted [(x.name, .string t)])], none, false⟩, []) := by
  have hblanks : Toml.blanks ('"' :: (t.toList.flatMap Toml.escaped ++ ['"'])) =
    '"' :: (t.toList.flatMap Toml.escaped ++ ['"']) := rfl
  rw [Setting.line, String.toList_ofList]
  unfold Toml.line?
  split
  · rename_i heq
    cases x <;> exact absurd (List.cons.inj heq).1 (by decide)
  · rename_i heq
    cases x <;> exact absurd (List.cons.inj heq).1 (by decide)
  · rw [key?_dotted, Option.bind_eq_bind, Option.bind_some]
    simp only
    rw [hblanks, Toml.value?_escaped]
    cases x <;> rfl

/-- Every text can be given to every setting in a file. -/
theorem exists_givesOnly (x : Setting) (t : String) :
    ∃ content doc, Toml.Document.read? content = some doc ∧ GivesOnly x t doc := by
  refine ⟨x.line t, [(x.sectionName, .table .dotted [(x.name, .string t)])], ?_,
    .among [] [] (.table .dotted) fun e he => absurd he List.not_mem_nil⟩
  have hline := line?_assigned x t
  rw [Setting.line, String.toList_ofList] at hline
  rw [Toml.Document.read?, Setting.line, String.toList_ofList]
  cases x <;>
    exact congrArg (Option.bind · Toml.Builder.finish?) (Toml.lines?_of_line _ (by decide) hline)

/-- The variable of a setting. -/
def Setting.variableName : Setting → String
  | library => Overrides.libraryVariable
  | symbol => Overrides.symbolVariable
  | stream => Overrides.outputVariable
  | level => Overrides.levelVariable

/-- An environment in which only the variable of one setting is set. -/
def aloneEnvironment (x : Setting) (t : String) : Environment where
  get? name := if name = x.variableName then some (Utf8.encode t) else none

theorem aloneEnvironment_gives (x : Setting) (t : String) :
    (aloneEnvironment x t).Gives (.only x t) := by
  cases x <;> exact ⟨rfl, rfl, rfl, rfl⟩

/-- Files of which one is the settings file of the working directory. -/
def settingsFiles (content : String) : Files :=
  Snapshot.view [⟨Path.ofText settingsFile, .ok (Utf8.encode content)⟩]

theorem loadsText_settingsFiles (o : Overrides) (content : String) :
    LoadsText (settingsFiles content) o content (Path.ofText settingsFile)
      (fromFile (settingsFiles content) o (Path.ofText settingsFile)) := by
  refine .file ?_
  rw [Files.readText, settingsFiles, Snapshot.read_of_seen, Except.bind, Utf8.decode?_encode]

section Loads

variable {content blank : String} {doc : Table} {files files' : Files} {e e' : Environment}
  {file file' : Path} {load load' : Except SettingsError Settings}

/-- Loading a file with one setting: either its text decodes and is all that the
    file gives, or the load fails. -/
theorem loading_of_givesOnly (hread : Toml.Document.read? content = some doc)
    (hdoc : GivesOnly x t doc) (hload : LoadsText files (.ofEnvironment e) content file load) :
    (∃ p root, Loading files e p root load ∧ x.Decodes t ∧
      ∀ y : Setting, y.value? p = if y = x then some t else none) ∨
      (¬ x.Decodes t ∧ ∀ s, load ≠ .ok s) := by
  rcases ofTable_givesOnly hdoc with ⟨p, hp, hdecodes, hvalues⟩ | ⟨hrefused, detail, herror⟩
  · rcases hload.loading ((ofText_of_read? hread).trans hp) with ⟨root, hl⟩
    exact .inl ⟨p, root, hl, hdecodes, hvalues⟩
  · refine .inr ⟨hrefused, fun s hs => ?_⟩
    rw [hload.malformed ((ofText_of_read? hread).trans herror)] at hs
    exact absurd hs (by simp only [reduceCtorEq, not_false_eq_true])

theorem loading_of_blank (hblank : Toml.Document.read? blank = some [])
    (hload : LoadsText files (.ofEnvironment e) blank file load) :
    ∃ root, Loading files e {} root load :=
  hload.loading (ofText_of_read? hblank)

/-- A file with one setting loads if its text decodes and is valid. -/
theorem file_loads_iff (hread : Toml.Document.read? content = some doc) (hdoc : GivesOnly x t doc)
    (he : e.Gives {}) (hload : LoadsText files (.ofEnvironment e) content file load) :
    (∃ s, load = .ok s) ↔ x.Decodes t ∧ (x ≠ .stream → x.Admits t) := by
  rcases loading_of_givesOnly hread hdoc hload with
    ⟨p, root, hl, hdecodes, hvalues⟩ | ⟨hrefused, hfails⟩
  · have hnone : Overrides.Valid {} := ⟨nofun, nofun, nofun, nofun⟩
    rw [(loading_precedence he hl).1, validate_eq_ok_iff, valid_iff_of_value? hvalues]
    exact ⟨fun h => ⟨hdecodes, h.1⟩, fun h => ⟨h.2, hnone⟩⟩
  · exact ⟨fun ⟨s, hs⟩ => absurd hs (hfails s), fun h => absurd h.1 hrefused⟩

/-- A variable alone loads if it may have its text. -/
theorem variable_loads_iff (hblank : Toml.Document.read? blank = some [])
    (he : e.Gives (.only x t)) (hload : LoadsText files (.ofEnvironment e) blank file load) :
    (∃ s, load = .ok s) ↔ x.Admits t := by
  rcases loading_of_blank hblank hload with ⟨root, hl⟩
  rw [(loading_precedence he hl).1, only_valid_iff]
  exact ⟨fun h => h.2, fun h => ⟨ProjectSettings.validate_default, h⟩⟩

/-- A file with one setting loads exactly if its variable with the same text does
    beside a blank file, and if a stream has no capitals. Where both load, all that is
    effective is the same. -/
theorem file_agrees_with_variable (hread : Toml.Document.read? content = some doc)
    (hdoc : GivesOnly x t doc) (hblank : Toml.Document.read? blank = some [])
    (he : e.Gives {}) (he' : e'.Gives (.only x t))
    (hload : LoadsText files (.ofEnvironment e) content file load)
    (hload' : LoadsText files' (.ofEnvironment e') blank file' load') :
    ((∃ s, load = .ok s) ↔
      (∃ s', load' = .ok s') ∧ (x = .stream → Text.lowercase t = t)) ∧
      ∀ s s', load = .ok s → load' = .ok s' → SameEffect s s' := by
  constructor
  · rw [file_loads_iff hread hdoc he hload, variable_loads_iff hblank he' hload']
    exact decodes_and_admits_iff
  · intro s s' hs hs'
    rcases loading_of_blank hblank hload' with ⟨root', hl'⟩
    rcases loading_of_givesOnly hread hdoc hload with ⟨p, root, hl, -, hvalues⟩ | ⟨-, hfails⟩
    · exact sameEffect_of_value? hvalues ((loading_precedence he hl).2 s hs).1
        ((loading_precedence he' hl').2 s' hs').1
    · exact absurd hs (hfails s)

end Loads

/-- A log level in an array, and in its variable. -/
theorem file_agrees_with_variable_level :
    ∃ s s', fromFile (settingsFiles "log = [\"Debug\"]") (.ofEnvironment ⟨fun _ => none⟩)
        (Path.ofText settingsFile) = .ok s ∧
      fromFile (settingsFiles "") (.ofEnvironment (aloneEnvironment .level "Debug"))
        (Path.ofText settingsFile) = .ok s' ∧ SameEffect s s' := by
  have hread : Toml.Document.read? "log = [\"Debug\"]" =
      some [("log", .array [.string "Debug"])] := by with_unfolding_all rfl
  have hdoc : GivesOnly .level "Debug" [("log", .array [.string "Debug"])] :=
    .among [] [] (.array rfl) fun e he => absurd he List.not_mem_nil
  have hgives := aloneEnvironment_gives .level "Debug"
  have hload' := loadsText_settingsFiles (.ofEnvironment (aloneEnvironment .level "Debug")) ""
  rcases file_agrees_with_variable hread hdoc Toml.Document.read?_empty ⟨rfl, rfl, rfl, rfl⟩ hgives
    (loadsText_settingsFiles (.ofEnvironment ⟨fun _ => none⟩) _) hload' with ⟨hiff, hsame⟩
  have hadmits : Setting.level.Admits "Debug" := by
    rw [Setting.Admits, LevelValid]
    decide +kernel
  rcases (variable_loads_iff Toml.Document.read?_empty hgives hload').2 hadmits with ⟨s', hs'⟩
  rcases hiff.2 ⟨⟨s', hs'⟩, fun h => absurd h (by decide)⟩ with ⟨s, hs⟩
  exact ⟨s, s', hs, hs', hsame s s' hs hs'⟩

/-- A stream in capitals is taken from its variable, and refused in the file. -/
theorem capital_stream_disagrees :
    ¬ ∀ (x : Setting) (t content : String) (doc : Table),
      Toml.Document.read? content = some doc → GivesOnly x t doc →
        ((∃ s, fromFile (settingsFiles content) (.ofEnvironment ⟨fun _ => none⟩)
            (Path.ofText settingsFile) = .ok s) ↔
          ∃ s, fromFile (settingsFiles "") (.ofEnvironment (aloneEnvironment x t))
            (Path.ofText settingsFile) = .ok s) := by
  intro h
  have hread : Toml.Document.read? "[output]\nstream = \"STDERR\"" =
      some [("output", .table .header [("stream", .string "STDERR")])] := by with_unfolding_all rfl
  have hdoc : GivesOnly .stream "STDERR"
      [("output", .table .header [("stream", .string "STDERR")])] :=
    .among [] [] (.table .header) fun e he => absurd he List.not_mem_nil
  have hadmits : Setting.stream.Admits "STDERR" := ⟨.stderr, by decide +kernel⟩
  have hloads := (variable_loads_iff Toml.Document.read?_empty
    (aloneEnvironment_gives .stream "STDERR") (loadsText_settingsFiles _ _)).2 hadmits
  have hfile := (h .stream "STDERR" _ _ hread hdoc).2 hloads
  have hdecodes := ((file_loads_iff hread hdoc ⟨rfl, rfl, rfl, rfl⟩
    (loadsText_settingsFiles (.ofEnvironment ⟨fun _ => none⟩) _)).1 hfile).1
  rcases hdecodes rfl with ⟨s, hs⟩
  cases s <;> exact absurd hs (by decide)

end Settings

end PrintBridge
