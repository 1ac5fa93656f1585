import Cron.Proofs.Settings
import Cron.Proofs.Settings.Given

/-! # Ways to load settings

Settings come from a text, from a file that has to exist, or from a file that may be missing.  A
text and a file with that text in it are taken or refused alike, and for the same reason
(`TextLoaded`).  That a file may be missing opens no way around a refusal: the defaults are loaded
where the name of the file leads to nothing, or where a text denotes them, and nowhere else
(`FileLoaded`).
-/
namespace Cron.Settings

variable {text : String} {file : File} {s t : Settings} {fault : Fault}

/-! ## Texts -/

/-- What a text is refused for.  A count of zero is told first. -/
inductive TextRefused (text : String) : Fault → Prop
  | malformed : (∀ s, ¬ TextDenotes text s) → TextRefused text .malformed
  | zeroCount {s : Settings} : TextDenotes text s → s.limits.count = 0 →
      TextRefused text .zeroCount
  | zeroHorizon {s : Settings} : TextDenotes text s → s.limits.count ≠ 0 →
      s.limits.horizon = 0 → TextRefused text .zeroHorizon

/-- What is said of a text that is refused, by itself or in a file of a given name.  Only the
message of a parse error names the file. -/
def wordings (file? : Option String) : List (Fault × String) :=
  [(.malformed,
      match file? with
      | none => "Configuration error: parse error"
      | some name => "Configuration error: parse error in " ++ name),
    (.zeroCount, "Configuration error: scheduler.count must be at least 1"),
    (.zeroHorizon, "Configuration error: scheduler.max_iterations must be at least 1")]

theorem check_eq_error_iff : s.check = .error fault ↔
    fault = .zeroCount ∧ s.limits.count = 0 ∨
      fault = .zeroHorizon ∧ s.limits.count ≠ 0 ∧ s.limits.horizon = 0 := by
  unfold check
  by_cases hc : s.limits.count = 0
  · simp [hc, eq_comm]
  by_cases hh : s.limits.horizon = 0
  · simp [hc, hh, eq_comm]
  · simp [hc, hh]

/-- A text is refused for one reason at most, and only for those that are listed. -/
theorem ofHcl_eq_error_iff : ofHcl text = .error fault ↔ TextRefused text fault := by
  constructor
  · intro h
    by_cases hdenotes : ∃ s, TextDenotes text s
    · obtain ⟨s, hs⟩ := hdenotes
      rw [ofHcl_of_denotes hs, check_eq_error_iff] at h
      rcases h with ⟨rfl, hcount⟩ | ⟨rfl, hcount, hhorizon⟩
      · exact .zeroCount hs hcount
      · exact .zeroHorizon hs hcount hhorizon
    · rw [ofHcl_of_not_denotes (not_exists.mp hdenotes)] at h
      obtain rfl := Except.error.inj h
      exact .malformed (not_exists.mp hdenotes)
  · intro h
    cases h with
    | malformed hnone => exact ofHcl_of_not_denotes hnone
    | zeroCount hs hcount =>
      rw [ofHcl_of_denotes hs, check_eq_error_iff]
      exact Or.inl ⟨rfl, hcount⟩
    | zeroHorizon hs hcount hhorizon =>
      rw [ofHcl_of_denotes hs, check_eq_error_iff]
      exact Or.inr ⟨rfl, hcount, hhorizon⟩

theorem TextRefused.mem_wordings (h : TextRefused text fault) (file? : Option String) :
    (fault, fault.message file?) ∈ wordings file? := by
  cases h with
  | malformed _ =>
    cases file? with
    | none => exact .head _
    | some name => exact .head _
  | zeroCount _ _ => exact .tail _ (.head _)
  | zeroHorizon _ _ _ => exact .tail _ (.tail _ (.head _))

/-! ## Files -/

/-- The defaults are loaded where the name of the file leads to nothing, and where the text of the
file denotes them. -/
theorem ofFileOrDefault_eq_default_iff :
    ofFileOrDefault file = .ok {} ↔
      file = .missing ∨ ∃ text, file = .bytes text.toUTF8 ∧ TextDenotes text {} := by
  cases file with
  | missing => exact iff_of_true rfl (Or.inl rfl)
  | locked reason => exact iff_of_false nofun (by simp)
  | bytes content =>
    have hload : ofFileOrDefault (.bytes content) = ofFile (.bytes content) := rfl
    rw [hload, ofFile_bytes_eq_ok_iff, denotes_iff]
    simp only [fromUTF8?_eq_some_iff]
    have hlimits : ({} : Settings).limits.count ≠ 0 ∧ ({} : Settings).limits.horizon ≠ 0 := by
      decide
    simp [hlimits]

/-! ## Loading -/

/-- What holds of loading a text, by itself or from a file. -/
structure TextLoaded (text : String) : Prop where
  /-- A file with the text in it is taken or refused as the text is, and with the same fault. -/
  file : ofFile (.bytes text.toUTF8) = ofHcl text
  /-- That there need not have been a file makes no difference. -/
  fileOrDefault : ofFileOrDefault (.bytes text.toUTF8) = ofHcl text
  /-- The text is refused for what is wrong with it, and for nothing else. -/
  refused_iff : ∀ fault, ofHcl text = .error fault ↔ TextRefused text fault
  /-- What is said then is one of three messages, each for one reason, whether the text is that of
  a file or not. -/
  wording : ∀ fault file?, ofHcl text = .error fault →
    (fault, fault.message file?) ∈ wordings file?
  /-- Otherwise the settings are taken that the text denotes. -/
  taken_iff : ∀ s, ofHcl text = .ok s ↔
    TextDenotes text s ∧ s.limits.count ≠ 0 ∧ s.limits.horizon ≠ 0
  /-- Settings that are taken ask for a run at least, and for a minute at least. -/
  one_le : ∀ s, ofHcl text = .ok s → 1 ≤ s.limits.count ∧ 1 ≤ s.limits.horizon
  /-- Each setting that a text denotes, be they taken or refused, is what the text gives for it,
  and the default where the text gives nothing. -/
  drawn : ∀ s, TextDenotes text s →
    ∃ items, Hcl.Body.ofText? text = some items ∧ s.DrawnFrom items

/-- What holds of loading a file that may be missing. -/
structure FileLoaded (file : File) : Prop where
  /-- The defaults are loaded for a name that leads to nothing and for a file that says them, and
  for no other file. -/
  default_iff : ofFileOrDefault file = .ok {} ↔
    file = .missing ∨ ∃ text, file = .bytes text.toUTF8 ∧ TextDenotes text {}
  /-- A file that is there and cannot be used is refused. -/
  refused_iff : (∃ fault, ofFileOrDefault file = .error fault) ↔ file.Unusable
  /-- Settings that are taken ask for a run at least, and for a minute at least. -/
  one_le : ∀ s, ofFileOrDefault file = .ok s → 1 ≤ s.limits.count ∧ 1 ≤ s.limits.horizon

/-- **All ways to load settings agree, and none lets through what cannot be used.** -/
theorem loading : (∀ text, TextLoaded text) ∧ ∀ file, FileLoaded file := by
  refine ⟨fun text => ?_, fun file => ?_⟩
  · refine
      { file := ofFile_toUTF8 text
        fileOrDefault := ofFileOrDefault_toUTF8 text
        refused_iff := fun _ => ofHcl_eq_error_iff
        wording := fun _ file? h => (ofHcl_eq_error_iff.mp h).mem_wordings file?
        taken_iff := fun _ => ofHcl_eq_ok_iff
        one_le := fun s h =>
          one_le_limits_of_ofFileOrDefault ((ofFileOrDefault_toUTF8 text).trans h)
        drawn := fun s h => ?_ }
    obtain ⟨items, hitems, hbody⟩ := h
    exact ⟨items, hitems, drawnFrom_of_ofBody? hbody⟩
  · exact ⟨ofFileOrDefault_eq_default_iff, ofFileOrDefault_refused_iff,
      fun s => one_le_limits_of_ofFileOrDefault⟩

/-- A count of zero is what a text or a file is refused for, even if the horizon is zero too. -/
theorem loading_zeroCount :
    let text := "scheduler \x7b\n  count = 0\n  max_iterations = 0\n\x7d\n"
    ofHcl text = .error .zeroCount ∧ ofFileOrDefault (.bytes text.toUTF8) = .error .zeroCount ∧
      Fault.message .zeroCount (some "cronexpr.hcl") =
        "Configuration error: scheduler.count must be at least 1" ∧
      ∃ items, Hcl.Body.ofText? text = some items ∧
        DrawnFrom ⟨"warn", ⟨0, 0⟩⟩ items := by
  intro text
  have hdenotes : TextDenotes text ⟨"warn", ⟨0, 0⟩⟩ :=
    Option.bind_eq_some_iff.mp (by decide +kernel)
  have hloaded := loading.1 text
  have hrefused := (hloaded.refused_iff .zeroCount).mpr (.zeroCount hdenotes rfl)
  exact ⟨hrefused, hloaded.fileOrDefault.trans hrefused, rfl, hloaded.drawn _ hdenotes⟩

end Cron.Settings
