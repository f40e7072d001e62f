import LightBridge.ExpertCache.Invariant

/-! The heat of a cache: how often each key was asked for, counted in one cache and imported
into another. -/
namespace LightBridge.ExpertCache
open Foundation

def heatFormat : String := "lightbridge-cache-heat"
def heatVersion : Nat := 1

structure HeatEntry (K : Type) where
  key : K
  requests : Nat
  deriving DecidableEq, Repr

structure HeatSnapshot (K : Type) where
  format : String
  version : Nat
  entries : List (HeatEntry K)
  deriving DecidableEq, Repr

inductive HeatError (J : Type) where
  | json (error : J)
  | inputTooLarge (actual maximum : Nat)
  | wrongFormat (format : String) (version : Nat)
  | tooManyEntries (actual maximum : Nat)
  | zeroRequests
  deriving DecidableEq, Repr

namespace State
variable {K J : Type} [DecidableEq K]

/-- The loop of `import_heat_json` under the lock. -/
def importEntries : List (HeatEntry K) → Command (State K) (HeatError J) Unit
  | [] => pure ()
  | entry :: entries => do
      Command.lift (ensure (entry.requests ≠ 0) .zeroRequests)
      Command.update fun state => { state with
        heat := state.heat.insert entry.key
          (max ((state.heat.lookup entry.key).getD 0) entry.requests) }
      importEntries entries

/-- `import_heat_json`, over a reader of JSON. -/
def importHeatJson (fromSlice : List UInt8 → Except J (HeatSnapshot K)) (bytes : List UInt8)
    (maximumJsonBytes maximumEntries : Nat) : Command (State K) (HeatError J) Nat := do
  Command.lift
    (ensure (bytes.length ≤ maximumJsonBytes) (.inputTooLarge bytes.length maximumJsonBytes))
  let snapshot ← Command.lift (wrap .json (fromSlice bytes))
  Command.lift (ensure (snapshot.format = heatFormat ∧ snapshot.version = heatVersion)
    (.wrongFormat snapshot.format snapshot.version))
  Command.lift (ensure (snapshot.entries.length ≤ maximumEntries)
    (.tooManyEntries snapshot.entries.length maximumEntries))
  importEntries snapshot.entries
  let state ← Command.read
  pure state.heat.entries.length

/-- `s'` is `s` but for the heat. -/
def Heats (s s' : State K) : Prop := ∃ heat, s' = { s with heat }

theorem importEntries_heats (entries : List (HeatEntry K)) (s : State K) :
    (importEntries (J := J) entries).Keeps (Heats s) := by
  induction entries with
  | nil => exact fun _ h => h
  | cons entry entries ih =>
      unfold importEntries
      refine (Command.Keeps.lift _ _).bind fun _ => Command.Keeps.bind ?_ fun _ => ih
      rintro _ ⟨heat, rfl⟩
      exact ⟨_, rfl⟩

/-- An import changes nothing but the heat, whether or not it fails. -/
theorem importHeatJson_heats (fromSlice : List UInt8 → Except J (HeatSnapshot K))
    (bytes : List UInt8) (maximumJsonBytes maximumEntries : Nat) (s : State K) :
    Heats s (importHeatJson fromSlice bytes maximumJsonBytes maximumEntries s).2 := by
  have hkeeps : (importHeatJson fromSlice bytes maximumJsonBytes maximumEntries).Keeps
      (Heats s) := by
    unfold importHeatJson
    refine (Command.Keeps.lift _ _).bind fun _ => (Command.Keeps.lift _ _).bind fun snapshot => ?_
    refine (Command.Keeps.lift _ _).bind fun _ => (Command.Keeps.lift _ _).bind fun _ => ?_
    refine (importEntries_heats snapshot.entries s).bind fun _ =>
      (Command.Keeps.read _).bind fun _ => ?_
    exact fun _ h => h
  exact hkeeps s ⟨s.heat, rfl⟩

end State

namespace System
variable {K ε J : Type} [DecidableEq K]

/-- States of a cache between whose steps heat may be imported. -/
inductive Heated (J : Type) (config : CacheConfig) : System K ε → Prop where
  | init (valid : config.validate = .ok ()) (limit : config.capacityBytes ≤ usizeMax) :
      Heated J config (initial config)
  | step {σ σ' : System K ε} (before : Heated J config σ) (step : Step σ σ') : Heated J config σ'
  | imported {σ : System K ε} (before : Heated J config σ)
      (fromSlice : List UInt8 → Except J (HeatSnapshot K)) (bytes : List UInt8)
      (maximumJsonBytes maximumEntries : Nat) (r : Except (HeatError J) Nat) (shared : State K)
      (region : State.importHeatJson fromSlice bytes maximumJsonBytes maximumEntries σ.shared =
        (r, shared)) : Heated J config (σ.setShared shared)

theorem Inv.heats {σ : System K ε} (h : σ.Inv) {shared : State K}
    (heats : State.Heats σ.shared shared) :
    (σ.setShared shared).Inv := by
  obtain ⟨heat, rfl⟩ := heats
  exact ⟨h.limit, h.accounted.congr rfl rfl rfl,
    h.slot_all (fun _ => Or.inl rfl) (Agrees.setShared σ _), h.sound, h.fresh, h.distinct⟩

theorem Heated.inv {config : CacheConfig} {σ : System K ε} (h : Heated J config σ) :
    σ.Inv ∧ σ.config = config := by
  induction h with
  | init valid limit => exact ⟨Inv.initial limit, rfl⟩
  | step before step ih => exact ⟨ih.1.step step, step.config.trans ih.2⟩
  | @imported σ before fromSlice bytes maximumJsonBytes maximumEntries r shared region ih =>
      have heats :=
        State.importHeatJson_heats fromSlice bytes maximumJsonBytes maximumEntries σ.shared
      rw [region] at heats
      exact ⟨ih.1.heats heats, ih.2⟩

end System
end LightBridge.ExpertCache
