import PrintBridge.Log.Filter
import PrintBridge.Proofs.Settings.Precedence
import PrintBridge.Proofs.Text.Folding

/-!
# Names of Levels and Streams

In which spellings the names of log levels and of streams are taken.

A setting is lower-cased by the Unicode standard and then compared. What reads the
level afterwards, when the log is set up, knows less: it compares names up to the case
of ASCII letters. A level that only the first of the two takes for a name would pass the
check of the settings, and then be read as the name of a target, for which everything is
logged. But none of the names has a k, so both readings take the same texts.

A level that is one of the names stands alone in its specification: it has none of the
characters that a specification is parted at, and no white space. So it is read whole,
as a threshold for every target.

## Main definitions

* `Log.ReadsNames`: Readers of level names that compare up to the case of ASCII letters.

## Theorems

* `levelValid_iff`: Which texts are log levels.
* `readsNames_ofName?`: The reader of the log is one of those.
* `Spec.read_of_name`: A name as a specification.
* `accepted_names`: The names that are taken, and what a level is read as.
-/

namespace PrintBridge

namespace Log

/-- A reader of level names that knows the six of them, in any case of ASCII letters. -/
structure ReadsNames (levelOf : String → Option Threshold) : Prop where
  knows : ∀ named ∈ Threshold.named, levelOf named.1 = some named.2
  up_to_case : ∀ s t, Text.SameLetters s t → levelOf s = levelOf t

/-- Texts that are the same up to case are the same in small letters. -/
theorem toLower_eq_of_sameLetters {s t : String} (h : Text.SameLetters s t) :
    s.toLower = t.toLower := by
  rw [← String.toList_inj]
  change (s.map Char.toLower).toList = (t.map Char.toLower).toList
  rw [String.toList_map, String.toList_map]
  exact h

/-- The log reads names so. -/
theorem readsNames_ofName? : ReadsNames Threshold.ofName? where
  knows := by decide +kernel
  up_to_case s t h := by rw [Threshold.ofName?, Threshold.ofName?, toLower_eq_of_sameLetters h]

namespace Spec

variable {cs : List Char} {separator : Char}

/-- A text without separators is one part. -/
theorem splitOn_of_not_mem (h : separator ∉ cs) : splitOn separator cs = [cs] := by
  induction cs with
  | nil => rfl
  | cons c rest ih =>
      rw [List.mem_cons, not_or] at h
      rw [splitOn, ih h.2]
      simp only [if_neg (Ne.symm h.1)]

theorem dropWhile_of_no_space (h : ∀ c ∈ cs, Text.whiteSpace.member c = false) :
    cs.dropWhile Text.whiteSpace.member = cs := by
  cases cs with
  | nil => rfl
  | cons c rest =>
      rw [List.dropWhile_cons_of_neg]
      rw [h c List.mem_cons_self]
      exact Bool.false_ne_true

/-- A text without white space is trimmed already. -/
theorem trim_of_no_space (h : ∀ c ∈ cs, Text.whiteSpace.member c = false) : trim cs = cs := by
  have hreverse : ∀ c ∈ cs.reverse, Text.whiteSpace.member c = false :=
    fun c hc => h c (List.mem_reverse.1 hc)
  rw [trim]
  simp only [dropWhile_of_no_space h, dropWhile_of_no_space hreverse, List.reverse_reverse]

/-- A character that a specification is parted at, or that is trimmed. -/
def Parting (c : Char) : Prop := c ∈ ['/', ',', '='] ∨ Text.whiteSpace.member c = true

instance (c : Char) : Decidable (Parting c) :=
  inferInstanceAs (Decidable (c ∈ ['/', ',', '='] ∨ Text.whiteSpace.member c = true))

/-- A text that names a level and is not parted anywhere is a threshold for every target. -/
theorem read_of_unparted {s : String} {t : Threshold} (hne : s.toList ≠ [])
    (hunparted : ∀ c ∈ s.toList, ¬ Parting c) (hlevel : Threshold.ofName? s = some t) :
    read s = ⟨[⟨none, t⟩], none, []⟩ := by
  have hsplit (separator : Char) (hmem : separator ∈ ['/', ',', '=']) :
      splitOn separator s.toList = [s.toList] :=
    splitOn_of_not_mem fun hc => hunparted separator hc (.inl hmem)
  have htrim : trim s.toList = s.toList := by
    refine trim_of_no_space fun c hc => ?_
    rw [← Bool.not_eq_true]
    exact fun hspace => hunparted c hc (.inr hspace)
  have hitem : item s.toList = .ok ⟨none, t⟩ := by
    rw [item, hsplit '=' (by decide)]
    simp only [String.ofList_toList, hlevel]
  have hitems : items s.toList = [.ok ⟨none, t⟩] := by
    have hkept : (!s.toList.isEmpty) = true := by
      rw [List.isEmpty_eq_false_iff.2 hne]
      rfl
    rw [items, hsplit ',' (by decide), List.map_singleton, htrim]
    simp only [List.filter_cons, hkept, if_true, List.filter_nil, List.map_singleton, hitem]
  -- There is no pattern behind the only part, so its items are the directives.
  rw [read, hsplit '/' (by decide)]
  simp only [List.length_nil, Nat.not_lt_zero, if_false, List.head?_nil, Option.map_none,
    Option.bind_none, Option.toList_none, List.append_nil, hitems]
  rfl

end Spec

/-- The capital or small form of a letter is no place where a specification is parted. -/
theorem not_parting_of_toLower {c : Char} (h : c.toLower.isLower = true) : ¬ Spec.Parting c := by
  have hsmall : c.toLower.toNat < 128 := by
    have hle : c.toLower.toNat ≤ 'z'.toNat := of_decide_eq_true (Bool.and_eq_true_iff.1 h).2
    have hz : 'z'.toNat = 122 := rfl
    omega
  have hall : ∀ n : Fin 128, (Char.ofNat n).toLower.isLower = true →
      ¬ Spec.Parting (Char.ofNat n) := by decide +kernel
  have hascii := hall ⟨c.toNat, Text.ascii_of_toLower hsmall⟩
  rw [Char.ofNat_toNat] at hascii
  exact hascii h

/-- What is the name of a level up to case is read as that level, and not as the name of a
    target. -/
theorem Spec.read_of_name {s : String} {named : String × Threshold}
    (hnamed : named ∈ Threshold.named) (h : Text.SameLetters s named.1) :
    read s = ⟨[⟨none, named.2⟩], none, []⟩ := by
  have hsmall : ∀ named ∈ Threshold.named, named.1.toList ≠ [] ∧
      (named.1.toList.all fun d => d.toLower.isLower) = true := by decide +kernel
  have hlevel : Threshold.ofName? s = some named.2 :=
    (readsNames_ofName?.up_to_case s named.1 h).trans (readsNames_ofName?.knows named hnamed)
  refine read_of_unparted ?_ (fun c hc => not_parting_of_toLower ?_) hlevel
  · intro hnil
    rw [Text.SameLetters, hnil, List.map_nil, eq_comm, List.map_eq_nil_iff] at h
    exact (hsmall named hnamed).1 h
  · have hmem : c.toLower ∈ named.1.toList.map Char.toLower := h ▸ List.mem_map_of_mem hc
    rcases List.mem_map.1 hmem with ⟨d, hd, hlower⟩
    rw [← hlower]
    exact List.all_eq_true.1 (hsmall named hnamed).2 d hd

end Log

/-- A log level is one of the six names, up to the case of ASCII letters. -/
theorem levelValid_iff (s : String) :
    LevelValid s ↔ ∃ name ∈ ["off", "error", "warn", "info", "debug", "trace"],
      Text.SameLetters s name := by
  have hkept : ∀ name ∈ ["off", "error", "warn", "info", "debug", "trace"],
      Text.KeptName name := by decide +kernel
  constructor
  · intro h
    exact ⟨_, h, (Text.lowercase_eq_iff (hkept _ h) s).1 rfl⟩
  · rintro ⟨name, hname, hsame⟩
    rw [LevelValid, (Text.lowercase_eq_iff (hkept name hname) s).2 hsame]
    exact hname

/-- A text names a stream if it is its name, up to the case of ASCII letters. -/
theorem parse_eq_ok_iff_sameLetters (s : String) (stream : OutputStream) :
    OutputStream.parse s = .ok stream ↔ Text.SameLetters s stream.name := by
  have hkept : Text.KeptName stream.name := by
    cases stream <;> decide +kernel
  rw [parse_eq_ok_iff, Text.lowercase_eq_iff hkept]

/-- Log levels and streams are taken in every case of their ASCII letters and in no other
    spelling, and a stream is read back from its name. What is taken as a log level is a
    threshold for every target where the log reads it, and the same level to every reader
    that compares up to the case of ASCII letters. -/
theorem accepted_names :
    (∀ field s : String, checkLevel field s = .ok () ↔
      ∃ name ∈ ["off", "error", "warn", "info", "debug", "trace"], Text.SameLetters s name) ∧
      (∀ (s : String) (stream : OutputStream),
        OutputStream.parse s = .ok stream ↔ Text.SameLetters s stream.name) ∧
      (∀ stream : OutputStream, OutputStream.parse stream.name = .ok stream) ∧
      ∀ field s : String, checkLevel field s = .ok () →
        ∃ named ∈ Log.Threshold.named, Text.SameLetters s named.1 ∧
          Log.Spec.read s = ⟨[⟨none, named.2⟩], none, []⟩ ∧
          ∀ levelOf, Log.ReadsNames levelOf → levelOf s = some named.2 := by
  refine ⟨fun field s => (checkLevel_eq_ok_iff field s).trans (levelValid_iff s),
    parse_eq_ok_iff_sameLetters, fun stream => (parse_eq_ok_iff_sameLetters _ _).2 rfl,
    fun field s hcheck => ?_⟩
  rcases (levelValid_iff s).1 ((checkLevel_eq_ok_iff field s).1 hcheck) with ⟨name, hname, hsame⟩
  have hnames : name ∈ Log.Threshold.named.map Prod.fst := hname
  rcases List.mem_map.1 hnames with ⟨named, hnamed, rfl⟩
  exact ⟨named, hnamed, hsame, Log.Spec.read_of_name hnamed hsame, fun levelOf hreads =>
    (hreads.up_to_case s named.1 hsame).trans (hreads.knows named hnamed)⟩

/-- A level in both cases, as the reader of the log and as a specification. -/
theorem accepted_names_mixed :
    checkLevel "log.level" "WaRN" = .ok () ∧
      ∃ named ∈ Log.Threshold.named, Text.SameLetters "WaRN" named.1 ∧
        Log.Spec.read "WaRN" = ⟨[⟨none, named.2⟩], none, []⟩ ∧
        Log.Threshold.ofName? "WaRN" = some named.2 := by
  have hvalid : LevelValid "WaRN" :=
    (levelValid_iff "WaRN").2 ⟨"warn", by decide, by decide +kernel⟩
  have hcheck : checkLevel "log.level" "WaRN" = .ok () :=
    (checkLevel_eq_ok_iff "log.level" "WaRN").2 hvalid
  rcases accepted_names.2.2.2 "log.level" "WaRN" hcheck with ⟨named, hnamed, hsame, hread, hlevel⟩
  exact ⟨hcheck, named, hnamed, hsame, hread, hlevel _ Log.readsNames_ofName?⟩

-- The dot of a capital I is kept, so this is no level.
example : (checkLevel "log.level" "\u0130nfo").toOption = none := by decide +kernel

end PrintBridge
