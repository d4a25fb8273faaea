import RailLayout.State.Motive.Script

/-!
Engines and trains that are told one thing after another. A property that each part of a command and each way of
taking over a report keeps is kept by every update and by every run (`Stable.run`).
-/

namespace RailLayout

namespace MotiveState

/-- Feed updates to an engine or a train, each at its time. -/
def run (rules : Rules) (s : MotiveState) (updates : List (Nat × Update)) : MotiveState :=
  updates.foldl (fun s u => (s.update rules u.1 u.2).state) s

theorem run_append (rules : Rules) (s : MotiveState) (first rest : List (Nat × Update)) :
    s.run rules (first ++ rest) = (s.run rules first).run rules rest := List.foldl_append

/-- Nothing that an engine or a train is told takes the property away, as long as its commands are admissible. -/
structure Stable (rules : Rules) (admissible : Command → Prop) (P : MotiveState → Prop) : Prop where
  profile {s : MotiveState} (h : P s) (p : Profile) : P { s with profile := p }
  latchGeneration {s : MotiveState} (h : P s) (c : Command) : P (s.latchGeneration c)
  halt {s : MotiveState} (h : P s) : P s.halt
  applyNumeric {s : MotiveState} (h : P s) (op : EngineOp) (data : Option UInt16) (effects : TriggerSet) :
    P (s.applyNumeric op data effects)
  applyFields {s : MotiveState} (h : P s) {c : Command} (hc : admissible c) {generation : Generation}
    {op : EngineOp} (hoperation : c.operation = .engine generation op) (now : Nat) :
    P (s.applyFields rules.settings.auxPulseWindow now generation op c.data (Effects.ofCommand rules.graph c))
  applyRecordFields {s : MotiveState} (h : P s) (m : RecordMessage) (r : MotiveRecord) :
    P (s.applyRecordFields m r)
  applyConsist {s : MotiveState} (h : P s) (kind : MotiveKind) (r : MotiveRecord) : P (s.applyConsist kind r)
  applyMemoryField {s : MotiveState} (h : P s) (entry : MemoryField × MemoryValue) : P (s.applyMemoryField entry)
  speed {s : MotiveState} (h : P s) (v : UInt8) : P { s with speed := some v.toUInt16 }
  fourDigitRecord {s : MotiveState} (h : P s) (n : UInt16) : P { s with fourDigitRecord := some n }

namespace Stable

variable {rules : Rules} {admissible : Command → Prop} {P : MotiveState → Prop} {s : MotiveState}

theorem applyCommand (hstable : Stable rules admissible P) (h : P s) (now : Nat) {c : Command}
    (hc : admissible c) : P (s.applyCommand rules now c).1 := by
  have hlatched := hstable.latchGeneration h c
  unfold MotiveState.applyCommand
  dsimp only
  split
  · exact hlatched
  · split
    · exact hstable.profile (hstable.halt hlatched) _
    · split
      · rename_i generation op hoperation
        have hnumeric := hstable.applyNumeric hlatched op c.data (Effects.ofCommand rules.graph c)
        unfold applyOperation
        dsimp only
        split
        · exact hstable.profile hnumeric _
        · exact hstable.profile (hstable.applyFields hnumeric hc hoperation now) _
      · exact hlatched

theorem applyReport (hstable : Stable rules admissible P) (h : P s) (m : Message) : P (s.applyReport m).1 := by
  unfold MotiveState.applyReport
  split
  · unfold applyRecord
    split
    · exact h
    · split
      · exact hstable.applyConsist (hstable.applyRecordFields h _ _) _ _
      · exact h
  · exact hstable.speed h _
  · rename_i m
    unfold applyMemory
    dsimp only
    generalize m.fields = fields
    induction fields generalizing s with
    | nil => exact h
    | cons entry rest ih => exact ih (hstable.applyMemoryField h entry)
  · split
    · exact hstable.fourDigitRecord h _
    · exact h
  · exact h

theorem applyMessage (hstable : Stable rules admissible P) (h : P s) (now : Nat) (m : Message) :
    P (s.applyMessage now m).1 := by
  have hreport := hstable.applyReport h m
  unfold MotiveState.applyMessage
  split
  · rename_i heq
    rw [heq] at hreport
    exact hstable.profile hreport _
  · rename_i heq
    rw [heq] at hreport
    exact hreport

theorem update (hstable : Stable rules admissible P) (h : P s) (now : Nat) {u : Update}
    (hu : ∀ c, u = .command c → admissible c) : P (s.update rules now u).state := by
  unfold MotiveState.update
  split
  · exact h
  · rename_i profile _
    have hprofile := hstable.profile h profile
    cases u with
    | command c => exact hstable.applyCommand hprofile now (hu c rfl)
    | message m => exact hstable.applyMessage hprofile now m

theorem run (hstable : Stable rules admissible P) (h : P s) {updates : List (Nat × Update)}
    (hupdates : ∀ u ∈ updates, ∀ c, u.2 = .command c → admissible c) : P (s.run rules updates) := by
  induction updates generalizing s with
  | nil => exact h
  | cons u rest ih =>
      have hfirst := hstable.update h u.1 (hupdates u List.mem_cons_self)
      exact ih hfirst fun v hv => hupdates v (List.mem_cons_of_mem u hv)

end Stable
end MotiveState
end RailLayout
