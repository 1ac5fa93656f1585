import Cron.Settings

/-! # Settings that can be used

A settings file is taken as a whole or refused as a whole.  `File.Unusable` lists what there is
to refuse it for, and a file is refused for nothing else (`ofFileOrDefault_refused_iff`); that
its name leads to nothing is none of it.  What is not refused asks for a run and a minute at least
(`one_le_limits_of_ofFileOrDefault`).
-/
namespace Cron.Settings

/-- The bytes are text, the text is HCL, and the values that are looked for are of the right
kind and make up the settings. -/
def Denotes (content : ByteArray) (s : Settings) : Prop :=
  ∃ text items, String.fromUTF8? content = some text ∧ Hcl.Body.ofText? text = some items ∧
    ofBody? items = some s

/-- What is found where a settings file is looked for, and cannot be used. -/
inductive File.Unusable : File → Prop
  | locked (reason : String) : Unusable (.locked reason)
  /-- The bytes are no text. -/
  | noText {content : ByteArray} : String.fromUTF8? content = none → Unusable (.bytes content)
  /-- The text is no HCL. -/
  | noBody {content : ByteArray} {text : String} : String.fromUTF8? content = some text →
      Hcl.Body.ofText? text = none → Unusable (.bytes content)
  /-- A value is of the wrong kind. -/
  | wrongKind {content : ByteArray} {text : String} {items : List Hcl.Item} :
      String.fromUTF8? content = some text → Hcl.Body.ofText? text = some items →
      ofBody? items = none → Unusable (.bytes content)
  /-- No runs are asked for. -/
  | zeroCount {content : ByteArray} {s : Settings} : Denotes content s → s.limits.count = 0 →
      Unusable (.bytes content)
  /-- No minutes are to be looked at. -/
  | zeroHorizon {content : ByteArray} {s : Settings} : Denotes content s →
      s.limits.horizon = 0 → Unusable (.bytes content)

variable {file : File} {text : String} {s t : Settings}

theorem check_eq_ok_iff :
    s.check = .ok t ↔ s = t ∧ s.limits.count ≠ 0 ∧ s.limits.horizon ≠ 0 := by
  unfold check
  by_cases hc : s.limits.count = 0
  · simp [hc]
  by_cases hh : s.limits.horizon = 0
  · simp [hc, hh]
  · simp [hc, hh]

/-! ## Texts -/

/-- The text is HCL, and the settings are those that its body denotes. -/
def TextDenotes (text : String) (s : Settings) : Prop :=
  ∃ items, Hcl.Body.ofText? text = some items ∧ ofBody? items = some s

theorem TextDenotes.unique (hs : TextDenotes text s) (ht : TextDenotes text t) : s = t := by
  obtain ⟨items, hitems, hs⟩ := hs
  obtain ⟨items', hitems', ht⟩ := ht
  obtain rfl := Option.some.inj (hitems.symm.trans hitems')
  exact Option.some.inj (hs.symm.trans ht)

theorem ofHcl_of_denotes (h : TextDenotes text s) : ofHcl text = s.check := by
  obtain ⟨items, hitems, hbody⟩ := h
  have hdecoded : (Hcl.Body.ofText? text).bind ofBody? = some s := by
    rw [hitems, Option.bind_some, hbody]
  rw [ofHcl, hdecoded]

theorem ofHcl_of_not_denotes (h : ∀ s, ¬ TextDenotes text s) :
    ofHcl text = .error .malformed := by
  have hdecoded : (Hcl.Body.ofText? text).bind ofBody? = none :=
    Option.eq_none_iff_forall_ne_some.mpr fun s hs => h s (Option.bind_eq_some_iff.mp hs)
  rw [ofHcl, hdecoded]

/-- What is taken from a text is what it denotes, if its limits are above zero. -/
theorem ofHcl_eq_ok_iff : ofHcl text = .ok s ↔
    TextDenotes text s ∧ s.limits.count ≠ 0 ∧ s.limits.horizon ≠ 0 := by
  by_cases hdenotes : ∃ t, TextDenotes text t
  · obtain ⟨t, ht⟩ := hdenotes
    rw [ofHcl_of_denotes ht, check_eq_ok_iff]
    constructor
    · rintro ⟨rfl, hlimits⟩
      exact ⟨ht, hlimits⟩
    · rintro ⟨hs, hlimits⟩
      obtain rfl := hs.unique ht
      exact ⟨rfl, hlimits⟩
  · rw [ofHcl_of_not_denotes (not_exists.mp hdenotes)]
    exact iff_of_false nofun fun h => hdenotes ⟨s, h.1⟩

/-! ## Files -/

theorem fromUTF8?_eq_some_iff {content : ByteArray} :
    String.fromUTF8? content = some text ↔ content = text.toUTF8 := by
  constructor
  · intro h
    unfold String.fromUTF8? at h
    split at h
    · obtain rfl := Option.some.inj h
      rfl
    · cases h
  · rintro rfl
    exact dif_pos text.isValidUTF8

/-- A file with a text in it has the settings of the text. -/
theorem ofFile_toUTF8 (text : String) : ofFile (.bytes text.toUTF8) = ofHcl text := by
  rw [ofFile, fromUTF8?_eq_some_iff.mpr rfl]

theorem ofFileOrDefault_toUTF8 (text : String) :
    ofFileOrDefault (.bytes text.toUTF8) = ofHcl text := ofFile_toUTF8 text

theorem denotes_iff {content : ByteArray} :
    Denotes content s ↔ ∃ text, String.fromUTF8? content = some text ∧ TextDenotes text s := by
  simp only [Denotes, TextDenotes, exists_and_left]

theorem denotes_toUTF8_iff : Denotes text.toUTF8 s ↔ TextDenotes text s := by
  simp [denotes_iff, fromUTF8?_eq_some_iff, String.toByteArray_inj]

theorem Denotes.unique {content : ByteArray} (hs : Denotes content s) (ht : Denotes content t) :
    s = t := by
  obtain ⟨text, htext, hs⟩ := denotes_iff.mp hs
  obtain ⟨text', htext', ht⟩ := denotes_iff.mp ht
  obtain rfl := Option.some.inj (htext.symm.trans htext')
  exact hs.unique ht

/-- What is taken from bytes is what they denote, if its limits are above zero. -/
theorem ofFile_bytes_eq_ok_iff {content : ByteArray} :
    ofFile (.bytes content) = .ok s ↔
      Denotes content s ∧ s.limits.count ≠ 0 ∧ s.limits.horizon ≠ 0 := by
  rw [denotes_iff, ofFile]
  cases String.fromUTF8? content with
  | none => simp
  | some text => simp [ofHcl_eq_ok_iff]

theorem File.Unusable.ne_ok (h : file.Unusable) : ofFileOrDefault file ≠ .ok s := by
  intro hok
  cases h with
  | locked reason => cases hok
  | noText htext =>
    obtain ⟨⟨_, _, htext', _⟩, _⟩ := ofFile_bytes_eq_ok_iff.mp hok
    rw [htext] at htext'
    cases htext'
  | noBody htext hitems =>
    obtain ⟨⟨_, _, htext', hitems', _⟩, _⟩ := ofFile_bytes_eq_ok_iff.mp hok
    obtain rfl := Option.some.inj (htext.symm.trans htext')
    rw [hitems] at hitems'
    cases hitems'
  | wrongKind htext hitems hbody =>
    obtain ⟨⟨_, _, htext', hitems', hbody'⟩, _⟩ := ofFile_bytes_eq_ok_iff.mp hok
    obtain rfl := Option.some.inj (htext.symm.trans htext')
    obtain rfl := Option.some.inj (hitems.symm.trans hitems')
    rw [hbody] at hbody'
    cases hbody'
  | zeroCount hdenotes hzero =>
    obtain ⟨hdenotes', hcount, _⟩ := ofFile_bytes_eq_ok_iff.mp hok
    exact hcount (hdenotes.unique hdenotes' ▸ hzero)
  | zeroHorizon hdenotes hzero =>
    obtain ⟨hdenotes', _, hhorizon⟩ := ofFile_bytes_eq_ok_iff.mp hok
    exact hhorizon (hdenotes.unique hdenotes' ▸ hzero)

/-- Bytes with none of these defects denote settings that are taken. -/
theorem File.exists_ok_of_not_unusable (h : ¬ file.Unusable) :
    ∃ s, ofFileOrDefault file = .ok s := by
  cases file with
  | missing => exact ⟨{}, rfl⟩
  | locked reason => exact absurd (.locked reason) h
  | bytes content =>
    cases htext : String.fromUTF8? content with
    | none => exact absurd (.noText htext) h
    | some text =>
      cases hitems : Hcl.Body.ofText? text with
      | none => exact absurd (.noBody htext hitems) h
      | some items =>
        cases hbody : ofBody? items with
        | none => exact absurd (.wrongKind htext hitems hbody) h
        | some s =>
          have hdenotes : Denotes content s := ⟨text, items, htext, hitems, hbody⟩
          exact ⟨s, ofFile_bytes_eq_ok_iff.mpr ⟨hdenotes,
            fun hzero => h (.zeroCount hdenotes hzero),
            fun hzero => h (.zeroHorizon hdenotes hzero)⟩⟩

/-- **A file is refused exactly if it cannot be used.** -/
theorem ofFileOrDefault_refused_iff :
    (∃ fault, ofFileOrDefault file = .error fault) ↔ file.Unusable := by
  constructor
  · rintro ⟨fault, hfault⟩
    by_cases h : file.Unusable
    · exact h
    · obtain ⟨s, hs⟩ := File.exists_ok_of_not_unusable h
      rw [hfault] at hs
      cases hs
  · intro h
    cases hload : ofFileOrDefault file with
    | error fault => exact ⟨fault, rfl⟩
    | ok s => exact absurd hload h.ne_ok

/-- Settings that were taken ask for a run at least, and for a minute at least. -/
theorem one_le_limits_of_ofFileOrDefault (h : ofFileOrDefault file = .ok s) :
    1 ≤ s.limits.count ∧ 1 ≤ s.limits.horizon := by
  cases file with
  | missing =>
    obtain rfl := Except.ok.inj h
    exact ⟨by decide, by decide⟩
  | locked reason => cases h
  | bytes content =>
    obtain ⟨-, hcount, hhorizon⟩ := ofFile_bytes_eq_ok_iff.mp h
    constructor
    · have hne : s.limits.count.toNat ≠ 0 := fun h0 => hcount (UInt64.toNat_inj.mp h0)
      rw [UInt64.le_iff_toNat_le, UInt64.toNat_one]
      omega
    · have hne : s.limits.horizon.toNat ≠ 0 := fun h0 => hhorizon (UInt32.toNat_inj.mp h0)
      rw [UInt32.le_iff_toNat_le, UInt32.toNat_one]
      omega

end Cron.Settings
