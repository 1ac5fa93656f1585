import Cron.Settings

/-! # What a settings file gives

A file gives the limits in one of three forms: as lines of a block, as members of an object, or as
items of an array, where the place tells which limit is meant.  `GivesLimit` says when a value is
given for a limit, and `GivesLevel` when one is given for the level of the log.  Whatever form is
chosen, each setting is drawn from the value that is given for it, and from nothing else; where none
is given, it keeps its default, no matter which of the others are given (`drawnFrom_of_ofBody?`).
-/
namespace Cron

open Hcl (Item Key)

/-! ## Limits, one by one -/

namespace Preview

/-- One of the two limits of a preview. -/
inductive Limit where
  | count
  | horizon

namespace Limit

/-- The name by which a file gives the limit. -/
def name : Limit → String
  | count => "count"
  | horizon => "max_iterations"

/-- The place of the limit in an array. -/
def place : Limit → Nat
  | count => 0
  | horizon => 1

/-- The number that the limit is. -/
def of : Limit → Limits → Nat
  | count, l => l.count.toNat
  | horizon, l => l.horizon.toNat

/-- One thing for the count and one for the horizon. -/
def pick {α : Type} (c m : α) : Limit → α
  | count => c
  | horizon => m

end Limit

namespace Limits

theorem toNat_countOf? {n : Nat} {c : UInt64} (h : countOf? n = some c) : n = c.toNat := by
  obtain ⟨hroom, hc⟩ := Option.ite_none_right_eq_some.mp h
  rw [← Option.some.inj hc]
  exact (UInt64.toNat_ofNat_of_lt hroom).symm

theorem toNat_horizonOf? {n : Nat} {m : UInt32} (h : horizonOf? n = some m) : n = m.toNat := by
  obtain ⟨hroom, hm⟩ := Option.ite_none_right_eq_some.mp h
  rw [← Option.some.inj hm]
  exact (UInt32.toNat_ofNat_of_lt hroom).symm

variable {α : Type} {nat? : α → Option Nat}

theorem ofParts?_eq (nat? : α → Option Nat) (count horizon : Option α) :
    ofParts? nat? count horizon =
      (count.elim (some 5) fun v => (nat? v).bind countOf?).bind fun c =>
        (horizon.elim (some 525600) fun v => (nat? v).bind horizonOf?).bind fun m =>
          some ⟨c, m⟩ := by
  cases count <;> cases horizon <;> simp [ofParts?]

/-- What is read from a value denotes the same number, and without a value the default is left. -/
theorem drawn_of_elim {β : Type} {room : Nat → Option β} {size : β → Nat}
    (hroom : ∀ {n x}, room n = some x → n = size x) {part : Option α} {standard x : β}
    (h : part.elim (some standard) (fun v => (nat? v).bind room) = some x) :
    (∀ v, part = some v → nat? v = some (size x)) ∧ (part = none → size x = size standard) := by
  cases part with
  | none =>
    obtain rfl := Option.some.inj h
    exact ⟨nofun, fun _ => rfl⟩
  | some v =>
    obtain ⟨n, hn, hx⟩ := Option.bind_eq_some_iff.mp h
    refine ⟨?_, nofun⟩
    rintro _ ⟨⟩
    rw [hn, hroom hx]

/-- Each limit is the number that its own value denotes, and the default without a value. -/
theorem of_ofParts? {parts : Limit → Option α} {l : Limits}
    (h : ofParts? nat? (parts .count) (parts .horizon) = some l) (k : Limit) :
    (∀ v, parts k = some v → nat? v = some (k.of l)) ∧ (parts k = none → k.of l = k.of {}) := by
  rw [ofParts?_eq] at h
  obtain ⟨c, hc, h⟩ := Option.bind_eq_some_iff.mp h
  obtain ⟨m, hm, hl⟩ := Option.bind_eq_some_iff.mp h
  obtain rfl := Option.some.inj hl
  cases k with
  | count => exact drawn_of_elim toNat_countOf? hc
  | horizon => exact drawn_of_elim toNat_horizonOf? hm

end Limits
end Preview

open Preview (Limit Limits)

/-! ## What is looked up -/

theorem Hcl.Value.lookUp_eq_some {ms : List (Key × Hcl.Value)} {key : String}
    {found : Option Hcl.Value} (h : lookUp ms key = some found) (v : Hcl.Value) :
    found = some v ↔ ∃ k, (k, v) ∈ ms ∧ k.text = key := by
  have hmem : ∀ k w, (k, w) ∈ ms ∧ k.text = key ↔
      (k, w) ∈ ms.filter (fun m => m.1.text == key) := by
    simp
  simp only [hmem]
  unfold lookUp at h
  split at h
  · split at h
    · rename_i hnone
      obtain rfl := Option.some.inj h
      simp [hnone]
    · rename_i m hone
      obtain rfl := Option.some.inj h
      simp [hone, Prod.ext_iff, eq_comm]
    · cases h
  · cases h

namespace Settings

variable {items : List Item} {s : Settings}

theorem valueOf_eq_some {name : String} {found : Option Hcl.Value}
    (h : valueOf items name = some found) (v : Hcl.Value) :
    found = some v ↔ ∃ n, Hcl.Body.standing items name = [.setting n v] := by
  unfold valueOf at h
  split at h
  · rename_i hnone
    obtain rfl := Option.some.inj h
    simp [hnone]
  · rename_i n w hone
    obtain rfl := Option.some.inj h
    simp [hone]
  · cases h

/-! ## What is given -/

/-- The body gives a value for the level of the log. -/
def GivesLevel (items : List Item) (v : Hcl.Value) : Prop :=
  ∃ n, Hcl.Body.standing items "log_level" = [.setting n v]

/-- The entries that stand for the limits give a value for one of them. -/
inductive GivesLimit (k : Limit) : List Item → Hcl.Value → Prop
  /-- As a line of a block. -/
  | line {n m : String} {body : List Item} {v : Hcl.Value} :
      Hcl.Body.standing body k.name = [.setting m v] → GivesLimit k [.block n [] body] v
  /-- As a member of an object. -/
  | member {n : String} {ms : List (Key × Hcl.Value)} {key : Key} {v : Hcl.Value} :
      (key, v) ∈ ms → key.text = k.name → GivesLimit k [.setting n (.object ms)] v
  /-- As an item of an array. -/
  | item {n : String} {vs : List Hcl.Value} {v : Hcl.Value} :
      vs[k.place]? = some v → GivesLimit k [.setting n (.array vs)] v

/-- Each limit is drawn from the value that the entries give for it, and keeps its default where
there is none. -/
structure LimitsDrawn (entries : List Item) (l : Limits) : Prop where
  given : ∀ k v, GivesLimit k entries v → v.nat? = some (k.of l)
  default : ∀ k, (∀ v, ¬ GivesLimit k entries v) → k.of l = k.of {}

/-- Each setting is drawn from the value that the body gives for it, and keeps its default where
there is none. -/
structure DrawnFrom (s : Settings) (items : List Item) : Prop where
  level_given : ∀ v, GivesLevel items v → s.logLevel = v.asText
  level_default : (∀ v, ¬ GivesLevel items v) → s.logLevel = ({} : Settings).logLevel
  limits : LimitsDrawn (Hcl.Body.standing items "scheduler") s.limits

variable {entries : List Item} {l : Limits} {n : String}

theorem limitsDrawn_of_parts (parts : Limit → Option Hcl.Value)
    (h : limitsOfParts? (parts .count) (parts .horizon) = some l)
    (hparts : ∀ k v, GivesLimit k entries v ↔ parts k = some v) : LimitsDrawn entries l where
  given k v hv := (Limits.of_ofParts? h k).1 v ((hparts k v).mp hv)
  default k hnone := by
    refine (Limits.of_ofParts? h k).2 (Option.eq_none_iff_forall_ne_some.mpr fun v hv => ?_)
    exact hnone v ((hparts k v).mpr hv)

theorem limitsDrawn_default (h : ∀ k v, ¬ GivesLimit k entries v) : LimitsDrawn entries {} where
  given k v hv := absurd hv (h k v)
  default _ _ := rfl

/-- Limits that are looked up by their names. -/
theorem limitsDrawn_of_names (find : String → Option (Option Hcl.Value))
    (h : (do limitsOfParts? (← find "count") (← find "max_iterations")) = some l)
    (hfind : ∀ k : Limit, ∀ found, find k.name = some found →
      ∀ v, GivesLimit k entries v ↔ found = some v) : LimitsDrawn entries l := by
  simp only [Option.bind_eq_bind, Option.bind_eq_some_iff] at h
  obtain ⟨c, hc, m, hm, h⟩ := h
  refine limitsDrawn_of_parts (Limit.pick c m) h fun k => ?_
  cases k with
  | count => exact hfind .count c hc
  | horizon => exact hfind .horizon m hm

theorem limitsDrawn_of_value {value : Hcl.Value} (h : limitsOfValue? value = some l) :
    LimitsDrawn [.setting n value] l := by
  cases value with
  | array vs =>
    exact limitsDrawn_of_parts (fun k => vs[k.place]?) h fun k v =>
      ⟨fun | .item hv => hv, .item⟩
  | object ms =>
    refine limitsDrawn_of_names (Hcl.Value.lookUp ms) h fun k found hfound v => ?_
    rw [Hcl.Value.lookUp_eq_some hfound]
    exact ⟨fun | .member hv hkey => ⟨_, hv, hkey⟩, fun ⟨_, hv, hkey⟩ => .member hv hkey⟩
  | null | bool value | number value | string text => cases h

theorem limitsDrawn_of_block {body : List Item}
    (h : limitsOfEntries? [.block n [] body] = some l) : LimitsDrawn [.block n [] body] l := by
  refine limitsDrawn_of_names (valueOf body) h fun k found hfound v => ?_
  rw [valueOf_eq_some hfound]
  exact ⟨fun | .line hv => ⟨_, hv⟩, fun ⟨_, hv⟩ => .line hv⟩

/-- Whatever entries stand for the limits, each limit is drawn from them by itself. -/
theorem limitsDrawn_of_limitsOfEntries? (h : limitsOfEntries? entries = some l) :
    LimitsDrawn entries l := by
  unfold limitsOfEntries? at h
  split at h
  · obtain rfl := Option.some.inj h
    exact limitsDrawn_default nofun
  · exact limitsDrawn_of_value h
  · exact limitsDrawn_of_block h
  · rename_i hempty hsetting hblock
    obtain ⟨-, hl⟩ := Option.ite_none_right_eq_some.mp h
    obtain rfl := Option.some.inj hl
    -- blocks with labels are left, and those have none of the three forms
    refine limitsDrawn_default ?_
    rintro k v (_ | _ | _)
    · exact hblock _ _ rfl
    · exact hsetting _ _ rfl
    · exact hsetting _ _ rfl

/-- **A body gives each setting by itself.**  What it gives is taken, and what it does not give
keeps its default. -/
theorem drawnFrom_of_ofBody? (h : ofBody? items = some s) : s.DrawnFrom items := by
  simp only [ofBody?, Option.bind_eq_bind, Option.bind_eq_some_iff, Option.pure_def] at h
  obtain ⟨level, hlevel, limits, hlimits, hs⟩ := h
  obtain rfl := Option.some.inj hs
  refine ⟨fun v hv => ?_, fun hnone => ?_, limitsDrawn_of_limitsOfEntries? hlimits⟩
  · rw [(valueOf_eq_some hlevel v).mpr hv]
    rfl
  · have hlevel' : level = none :=
      Option.eq_none_iff_forall_ne_some.mpr fun v hv => hnone v ((valueOf_eq_some hlevel v).mp hv)
    rw [hlevel']
    rfl

/-- A block takes the place of the array before it, and so no count is given. -/
example : (ofHcl "scheduler = [3]\nscheduler \x7b max_iterations = 9 \x7d").toOption =
    some ⟨"warn", ⟨5, 9⟩⟩ := by decide +kernel

end Settings
end Cron
