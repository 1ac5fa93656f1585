import Cron.Exchange
import Cron.Proofs.Json.Parsing

/-! # Records that come back

A record that is written as JSON text is read from that text again, in either layout, and the
texts of an expression are so from an array without names too (`records_restored`).

That a value comes back from its text is a fact about JSON.  What is left for the records is
that each member is looked up under the name that it was written under, and that it has room
where it is read to.
-/
namespace Cron

open Json (Value)

/-- The reader finds `a` in the text of the value, whichever way it is laid out. -/
def Json.Value.Restores {α : Type} (read : Value → Option α) (v : Value) (a : α) : Prop :=
  (Value.ofText? v.compact).bind read = some a ∧ (Value.ofText? v.pretty).bind read = some a

theorem Json.Value.IsPlain.restores {α : Type} {read : Value → Option α} {v : Value} {a : α}
    (hv : v.IsPlain) (h : read v = some a) : v.Restores read a := by
  rw [Restores, Value.ofText?_compact hv, Value.ofText?_pretty hv]
  exact ⟨h, h⟩

namespace Expression

theorem ofJson?_toJson (e : Expression) : ofJson? e.toJson = some e := rfl

theorem isPlain_toJson (e : Expression) : e.toJson.IsPlain := by
  apply Value.isPlain_record
  intro m hm
  obtain ⟨p, -, rfl⟩ := List.mem_map.mp hm
  exact Value.isPlain_text _

/-- The five texts without their names. -/
def toJsonArray (e : Expression) : Value := .array (e.entries.map fun p => .text p.2)

theorem ofJson?_toJsonArray (e : Expression) : ofJson? e.toJsonArray = some e := rfl

theorem isPlain_toJsonArray (e : Expression) : e.toJsonArray.IsPlain := by
  apply Value.isPlain_array
  intro v hv
  obtain ⟨p, -, rfl⟩ := List.mem_map.mp hv
  exact Value.isPlain_text _

end Expression

namespace Verdict

theorem mapM_text?_map_text (errors : List String) :
    (errors.map Value.text).mapM Value.text? = some errors := by
  induction errors with
  | nil => rfl
  | cons e errors ih => simp [List.mapM_cons, Value.text?, Value.text, ih]

theorem ofJson?_toJson (v : Verdict) : ofJson? v.toJson = some v := by
  have hparts : ofJson? v.toJson = ofParts? (.bool v.valid) (.array (v.errors.map .text)) := rfl
  rw [hparts, ofParts?]
  simp only [Value.bool?, Value.items?, mapM_text?_map_text, Option.bind_eq_bind,
    Option.bind_some, Option.pure_def]

theorem isPlain_toJson (v : Verdict) : v.toJson.IsPlain := by
  apply Value.isPlain_record
  simp only [List.forall_mem_cons]
  refine ⟨Value.isPlain_bool _, Value.isPlain_array ?_, nofun⟩
  intro w hw
  obtain ⟨e, -, rfl⟩ := List.mem_map.mp hw
  exact Value.isPlain_text _

end Verdict

namespace Preview.Limits

theorem countOf?_toNat (count : UInt64) : countOf? count.toNat = some count := by
  rw [countOf?, if_pos count.toNat_lt]
  simp

theorem horizonOf?_toNat (horizon : UInt32) : horizonOf? horizon.toNat = some horizon := by
  rw [horizonOf?, if_pos horizon.toNat_lt]
  simp

theorem ofJson?_toJson (l : Limits) : ofJson? l.toJson = some l := by
  have hparts : ofJson? l.toJson =
      ofParts? Value.nat? (some (.nat l.count.toNat)) (some (.nat l.horizon.toNat)) := rfl
  rw [hparts, ofParts?]
  simp [Value.nat?, Value.nat, countOf?_toNat, horizonOf?_toNat]

theorem isPlain_toJson (l : Limits) : l.toJson.IsPlain := by
  apply Value.isPlain_record
  simp only [List.forall_mem_cons]
  exact ⟨Value.isPlain_nat _, Value.isPlain_nat _, nofun⟩

end Preview.Limits

/-- **Every record comes back from its text.**  This holds of expressions, whatever their five
texts are, of verdicts and of limits; and an expression comes back from the bare array of its
texts too. -/
theorem records_restored :
    (∀ e : Expression, e.toJson.Restores Expression.ofJson? e ∧
      (Value.array [.text e.minute, .text e.hour, .text e.dayOfMonth, .text e.month,
        .text e.dayOfWeek]).Restores Expression.ofJson? e) ∧
    (∀ v : Verdict, v.toJson.Restores Verdict.ofJson? v) ∧
    ∀ l : Preview.Limits, l.toJson.Restores Preview.Limits.ofJson? l := by
  refine ⟨fun e => ⟨?_, ?_⟩, fun v => ?_, fun l => ?_⟩
  · exact e.isPlain_toJson.restores e.ofJson?_toJson
  · exact e.isPlain_toJsonArray.restores e.ofJson?_toJsonArray
  · exact v.isPlain_toJson.restores v.ofJson?_toJson
  · exact l.isPlain_toJson.restores l.ofJson?_toJson

/-- The names of the five texts; a quote stands behind a backslash, and a control character is
told by its number. -/
example : (Expression.mk "*/5" "\"" "1" "\x1f" "7").toJson.compact =
    "\x7b\"minute\":\"*/5\",\"hour\":\"\\\"\",\"dayOfMonth\":\"1\"," ++
      "\"month\":\"\\u001f\",\"dayOfWeek\":\"7\"\x7d" := by decide +kernel

end Cron
