import PrintBridge.Text.Lowercase

/-!
# Folding of Case

When a text is lower-cased to a given name.

Lower-casing goes by the Unicode standard, and the names that are looked for are in
ASCII. It could let in texts that nobody would call the name in other letters, since
capitals from other scripts might have small letters of ASCII. There are two such
capitals. The Kelvin sign becomes a k. The capital I with a dot above becomes an i, but
the dot is kept behind it as a character of its own. All other characters beyond ASCII
stay beyond it, sigma in both of its forms among them.

So a name that has no k is met by its own letters only, in either case, and then
lower-casing does no more than the case of ASCII letters needs: what stands around a
character does not matter to it.

## Main definitions

* `SameLetters`: Texts that are the same up to the case of ASCII letters.
* `Kept`, `KeptName`: Letters, and names in them, that nothing else is folded to.

## Theorems

* `exists_foreign`: What is beyond ASCII stays beyond it.
* `lowercaseFrom_ascii`: Lower-casing of texts in ASCII.
* `lowercase_eq_iff`: What is folded to a name.
-/

namespace PrintBridge

namespace Text

/-- Texts that are the same up to the case of ASCII letters. -/
def SameLetters (s t : String) : Prop := s.toList.map Char.toLower = t.toList.map Char.toLower

instance (s t : String) : Decidable (SameLetters s t) :=
  inferInstanceAs (Decidable (s.toList.map Char.toLower = t.toList.map Char.toLower))

/-- A small letter of ASCII that nothing is folded to but itself and its capital. -/
def Kept (d : Char) : Prop := d.toNat < 128 ∧ d ≠ 'k' ∧ d.toLower = d

instance (d : Char) : Decidable (Kept d) :=
  inferInstanceAs (Decidable (d.toNat < 128 ∧ d ≠ 'k' ∧ d.toLower = d))

/-- A name in such letters. -/
def KeptName (name : String) : Prop := ∀ d ∈ name.toList, Kept d

-- Only the characters of the name are gone through, not all that there are.
instance (name : String) : Decidable (KeptName name) :=
  List.decidableBAll Kept name.toList

variable {c : Char} {cs before : List Char} {name : String}

section Beyond

/-- Whether a rule leads from beyond ASCII to beyond ASCII, and to characters. -/
def CaseRule.KeepsBeyond (r : CaseRule) : Prop :=
  128 ≤ r.image ∧ (r.image + (r.last - r.first) < 0xd800 ∨
    0xdfff < r.image ∧ r.image + (r.last - r.first) < 0x110000)

instance (r : CaseRule) : Decidable r.KeepsBeyond :=
  inferInstanceAs (Decidable (128 ≤ r.image ∧ (r.image + (r.last - r.first) < 0xd800 ∨
    0xdfff < r.image ∧ r.image + (r.last - r.first) < 0x110000)))

/-- Of the characters beyond ASCII only the Kelvin sign is led back by a rule. -/
theorem keepsBeyond_of_mem {r : CaseRule} (h : r ∈ caseRules) (hlast : 128 ≤ r.last) :
    r.KeepsBeyond ∨ (r.first = 0x212a ∧ r.last = 0x212a) := by
  have hall : ∀ r ∈ caseRules, 128 ≤ r.last →
      r.KeepsBeyond ∨ (r.first = 0x212a ∧ r.last = 0x212a) := by decide +kernel
  exact hall r h hlast

/-- What is beyond ASCII stays beyond it, with something of it at least. -/
theorem exists_foreign (hc : 128 ≤ c.toNat) (hkelvin : c ≠ '\u212a') :
    ∃ d ∈ lowerChar c, 128 ≤ d.toNat := by
  unfold lowerChar
  split
  · exact ⟨'\u0307', by decide, by decide⟩
  · split
    · rename_i r hr
      have hcovers := List.find?_some hr
      simp only [CaseRule.covers, Bool.and_eq_true, decide_eq_true_eq] at hcovers
      rcases hcovers with ⟨⟨hfirst, hlast⟩, -⟩
      refine ⟨_, List.mem_singleton_self _, ?_⟩
      rcases keepsBeyond_of_mem (List.mem_of_find?_eq_some hr) (Nat.le_trans hc hlast) with
        ⟨himage, hvalid⟩ | ⟨hfirst', hlast'⟩
      · have hchar : (r.image + (c.toNat - r.first)).isValidChar := by
          unfold Nat.isValidChar
          omega
        have hnat : (Char.ofNat (r.image + (c.toNat - r.first))).toNat =
            r.image + (c.toNat - r.first) := by
          rw [Char.ofNat, dif_pos hchar]
          rfl
        rw [hnat]
        exact Nat.le_add_right_of_le himage
      · refine absurd (Char.toNat_inj.1 ?_) hkelvin
        change c.toNat = 0x212a
        omega
    · exact ⟨c, List.mem_singleton_self c, hc⟩

/-- In lower-cased text that is in ASCII and has no k there was nothing beyond ASCII. -/
theorem ascii_of_lowercaseFrom (h : ∀ d ∈ lowercaseFrom before cs, d.toNat < 128 ∧ d ≠ 'k') :
    ∀ c ∈ cs, c.toNat < 128 := by
  induction cs generalizing before with
  | nil => exact fun c hc => absurd hc List.not_mem_nil
  | cons c rest ih =>
      simp only [lowercaseFrom, List.mem_append] at h
      refine List.forall_mem_cons.2 ⟨?_, ih fun d hd => h d (.inr hd)⟩
      rcases Nat.lt_or_ge c.toNat 128 with hascii | hforeign
      · exact hascii
      · -- Every character beyond ASCII leaves something that the text does not have.
        exfalso
        by_cases hsigma : c = 'Σ'
        · rw [if_pos hsigma] at h
          by_cases hend : (meetsLetter before && !meetsLetter rest) = true
          · rw [if_pos hend] at h
            exact absurd (h 'ς' (.inl List.mem_cons_self)).1 (by decide)
          · rw [if_neg hend] at h
            exact absurd (h 'σ' (.inl List.mem_cons_self)).1 (by decide)
        · rw [if_neg hsigma] at h
          by_cases hkelvin : c = '\u212a'
          · have hk : 'k' ∈ lowerChar c := by
              rw [hkelvin]
              decide +kernel
            exact (h 'k' (.inl hk)).2 rfl
          · rcases exists_foreign hforeign hkelvin with ⟨d, hd, hbeyond⟩
            exact Nat.not_lt.2 hbeyond (h d (.inl hd)).1

/-- In ASCII only the case of letters changes, wherever they stand. -/
theorem lowercaseFrom_ascii (h : ∀ c ∈ cs, c.toNat < 128) :
    lowercaseFrom before cs = cs.map Char.toLower := by
  induction cs generalizing before with
  | nil => rfl
  | cons c rest ih =>
      rw [List.forall_mem_cons] at h
      -- A sigma is the only character that depends on its place, and is not in ASCII.
      have hsigma : c ≠ 'Σ' := by
        rintro rfl
        exact absurd h.1 (by decide)
      have hlower : lowerChar c = [c.toLower] := by
        have hascii := lowerChar_ascii ⟨c.toNat, h.1⟩
        rwa [Char.ofNat_toNat] at hascii
      rw [lowercaseFrom, if_neg hsigma, hlower, ih h.2, List.map_cons]
      rfl

/-- The case of letters is a matter within ASCII. -/
theorem ascii_of_toLower (h : c.toLower.toNat < 128) : c.toNat < 128 := by
  unfold Char.toLower at h
  split at h
  · rename_i hcapital
    have hle : c.toNat ≤ 'Z'.toNat := hcapital.2
    have hz : 'Z'.toNat = 90 := rfl
    omega
  · exact h

end Beyond

/-- What is folded to a name is the name up to the case of ASCII letters, if the name is in
    small letters of ASCII and has no k. -/
theorem lowercase_eq_iff (hname : KeptName name) (s : String) :
    lowercase s = name ↔ SameLetters s name := by
  have hsmall : name.toList.map Char.toLower = name.toList :=
    (List.map_congr_left fun d hd => (hname d hd).2.2).trans (List.map_id _)
  rw [SameLetters, hsmall, ← String.toList_inj, lowercase, String.toList_ofList]
  constructor
  · intro h
    -- A character from beyond ASCII would have left a k, or something beyond ASCII.
    have hascii : ∀ c ∈ s.toList, c.toNat < 128 := by
      have hnames : ∀ d ∈ lowercaseFrom [] s.toList, d.toNat < 128 ∧ d ≠ 'k' := by
        intro d hd
        rw [h] at hd
        exact ⟨(hname d hd).1, (hname d hd).2.1⟩
      exact ascii_of_lowercaseFrom hnames
    rw [← lowercaseFrom_ascii hascii, h]
  · intro h
    have hascii : ∀ c ∈ s.toList, c.toNat < 128 := by
      intro c hc
      refine ascii_of_toLower (hname c.toLower ?_).1
      rw [← h]
      exact List.mem_map_of_mem hc
    rw [lowercaseFrom_ascii hascii, h]

end Text

end PrintBridge
