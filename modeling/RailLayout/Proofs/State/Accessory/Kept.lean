import RailLayout.Proofs.State.Feed

/-!
What an accessory keeps to that heard nothing but commands and messages from frames (`AccessoryState.Kept`). An output
is in one of three positions once it is known, and it is known if its option-one key was the last one pressed; so
the keys and the positions can be sent one after the other.
-/

namespace RailLayout

namespace AccessoryState

variable {s t : AccessoryState} {rules : Rules} {now : Nat} {u : Update}

/-- What the option-one keys and the positions of the outputs keep to. -/
structure Latched (s : AccessoryState) : Prop where
  aux : ∀ op, s.aux = some op →
    (op = .aux1OptOne ∧ s.aux1.isSome = true) ∨ (op = .aux2OptOne ∧ s.aux2.isSome = true)
  aux1 : ∀ op, s.aux1 = some op → op = .aux1On ∨ op = .aux1Off ∨ op = .aux1OptTwo
  aux2 : ∀ op, s.aux2 = some op → op = .aux2On ∨ op = .aux2Off ∨ op = .aux2OptTwo
  /-- A press that toggles nothing comes after one that did. -/
  aux1Pressed : s.aux1Pressed.isSome = true → s.aux1.isSome = true
  aux2Pressed : s.aux2Pressed.isSome = true → s.aux2.isSome = true

theorem latched_fresh (profile : Profile) : Latched (fresh profile) where
  aux _ h := by cases h
  aux1 _ h := by cases h
  aux2 _ h := by cases h
  aux1Pressed h := by cases h
  aux2Pressed h := by cases h

theorem latched_setAux1 (h : Latched s) {op : AccessoryOp} (hop : op = .aux1On ∨ op = .aux1Off ∨ op = .aux1OptTwo) :
    Latched { s with aux1 := some op } where
  aux key hkey := (h.aux key hkey).imp_left fun hfirst => ⟨hfirst.1, rfl⟩
  aux1 _ hsame := by
    cases hsame
    exact hop
  aux2 := h.aux2
  aux1Pressed _ := rfl
  aux2Pressed := h.aux2Pressed

theorem latched_setAux2 (h : Latched s) {op : AccessoryOp} (hop : op = .aux2On ∨ op = .aux2Off ∨ op = .aux2OptTwo) :
    Latched { s with aux2 := some op } where
  aux key hkey := (h.aux key hkey).imp_right fun hsecond => ⟨hsecond.1, rfl⟩
  aux1 := h.aux1
  aux2 _ hsame := by
    cases hsame
    exact hop
  aux1Pressed := h.aux1Pressed
  aux2Pressed _ := rfl

theorem latched_applyOutput (h : Latched s) (trigger : Trigger) : Latched (s.applyOutput trigger) := by
  unfold applyOutput
  split
  · exact latched_setAux1 h (Or.inl rfl)
  · exact latched_setAux1 h (Or.inr (Or.inl rfl))
  · exact latched_setAux1 h (Or.inr (Or.inr rfl))
  · exact latched_setAux2 h (Or.inl rfl)
  · exact latched_setAux2 h (Or.inr (Or.inl rfl))
  · exact latched_setAux2 h (Or.inr (Or.inr rfl))
  · exact h

theorem latched_applyOutputs (h : Latched s) (effects : TriggerSet) : Latched (effects.foldl applyOutput s) := by
  induction effects generalizing s with
  | nil => exact h
  | cons trigger rest ih => exact ih (latched_applyOutput h trigger)

/-- A press leaves a position: the one that it toggles to, or the one that was known from the press before. -/
theorem exists_pressed {pressed : Option Nat} {known : Option AccessoryOp} {on optionTwo off : AccessoryOp}
    (hknown : ∀ op, known = some op → op = on ∨ op = off ∨ op = optionTwo)
    (hpressed : pressed.isSome = true → known.isSome = true) (window now : Nat) :
    ∃ op, (if pulseDue pressed window now then some (pulse known on optionTwo off) else known) = some op ∧
      (op = on ∨ op = off ∨ op = optionTwo) := by
  by_cases hdue : pulseDue pressed window now = true
  · refine ⟨pulse known on optionTwo off, if_pos hdue, ?_⟩
    unfold pulse
    split
    · split
      · exact Or.inr (Or.inl rfl)
      · exact Or.inl rfl
    · exact Or.inl rfl
  · -- A press that toggles nothing comes soon after one that did, which left a position.
    have hbefore : pressed.isSome = true := by
      cases pressed with
      | none => exact absurd rfl hdue
      | some time => rfl
    obtain ⟨op, hop⟩ := Option.isSome_iff_exists.mp (hpressed hbefore)
    exact ⟨op, (if_neg hdue).trans hop, hknown op hop⟩

theorem latched_applyPress (h : Latched s) (window now : Nat) (op : AccessoryOp) :
    Latched (s.applyPress window now op) := by
  unfold applyPress
  split
  · rename_i hop
    obtain ⟨position, hposition, hvalid⟩ := exists_pressed h.aux1 h.aux1Pressed window now
    have hset := latched_setAux1 h hvalid
    rw [hposition]
    refine { hset with aux := fun key hkey => ?_, aux1Pressed := fun _ => rfl }
    cases hkey
    exact Or.inl ⟨hop, rfl⟩
  · split
    · rename_i hop
      obtain ⟨position, hposition, hvalid⟩ := exists_pressed h.aux2 h.aux2Pressed window now
      have hset := latched_setAux2 h hvalid
      rw [hposition]
      refine { hset with aux := fun key hkey => ?_, aux2Pressed := fun _ => rfl }
      cases hkey
      exact Or.inr ⟨hop, rfl⟩
    · exact h

theorem latched_setPower (h : Latched s) (on : Bool) : Latched (s.setPower on) := by
  cases on with
  | true =>
      have hfirst : Latched { s with aux1 := some .aux1On } := latched_setAux1 h (Or.inl rfl)
      have hset : Latched { s with aux1 := some .aux1On, aux2 := some .aux2On } := latched_setAux2 hfirst (Or.inl rfl)
      refine { hset with aux := fun key hkey => ?_ }
      cases hkey
      exact Or.inl ⟨rfl, rfl⟩
  | false =>
      have hfirst : Latched { s with aux1 := some .aux1Off } := latched_setAux1 h (Or.inr (Or.inl rfl))
      have hset : Latched { s with aux1 := some .aux1Off, aux2 := some .aux2Off } :=
        latched_setAux2 hfirst (Or.inr (Or.inl rfl))
      refine { hset with aux := fun key hkey => ?_ }
      cases hkey
      exact Or.inr ⟨rfl, rfl⟩

theorem latched_halt (h : Latched s) : Latched s.halt :=
  { latched_setPower h false with }

/-- What an accessory keeps to that heard nothing but commands and messages from frames. -/
structure Kept (s : AccessoryState) : Prop where
  named : s.profile.Named
  latched : Latched s
  /-- An accessory that no board drives is not claimed. -/
  plain : s.kind = .plain → s.claimed = false
  district : ∀ action, s.districtAction = some action → action = .control1 ∨ action = .control3

theorem kept_fresh (address : Option UInt16) : Kept (fresh (.fresh address)) where
  named := Profile.named_fresh address
  latched := latched_fresh _
  plain _ := rfl
  district _ h := by cases h

theorem kept_of_alike (h : Kept s) (halike : Alike s t) (hlatched : Latched t) : Kept t where
  named := halike.profile ▸ h.named
  latched := hlatched
  plain hplain := halike.claimed.trans (h.plain (halike.kind.symm.trans hplain))
  district action haction := h.district action (halike.districtAction.symm.trans haction)

theorem kept_record (h : Kept s) (u : Update) (now : Nat) : Kept (s.record u now) :=
  { h with named := { h.named with }, latched := { h.latched with } }

theorem kept_applyOperation (h : Kept s) (rules : Rules) (now : Nat) (c : Command) (op : AccessoryOp) :
    Kept (s.applyOperation rules now c op).1 := by
  unfold applyOperation
  dsimp only
  have hrecorded := kept_record h (.command c) now
  have hnumbered : Kept (if op = .numeric then { s.record (.command c) now with number := c.data }
      else s.record (.command c) now) := by
    split
    · exact { hrecorded with latched := { hrecorded.latched with } }
    · exact hrecorded
  generalize (if op = .numeric then { s.record (.command c) now with number := c.data }
    else s.record (.command c) now) = numbered at hnumbered ⊢
  split
  · exact hnumbered
  · exact kept_of_alike hnumbered (alike_trans (alike_applyPress _ now op numbered) (alike_applyOutputs _ _))
      (latched_applyOutputs (latched_applyPress hnumbered.latched _ now op) _)

theorem kept_applyCommand (h : Kept s) (rules : Rules) (now : Nat) (c : Command) :
    Kept (s.applyCommand rules now c).1 := by
  unfold applyCommand
  split
  · have hrecorded := kept_record h (.command c) now
    exact kept_of_alike hrecorded ⟨rfl, rfl, rfl, rfl⟩ (latched_halt hrecorded.latched)
  · split
    · exact kept_applyOperation h rules now c _
    · exact h

/-! ## Messages -/

/-- What a board's message keeps of an accessory that the board drives. -/
structure Driven (s t : AccessoryState) : Prop where
  kind : t.kind = s.kind
  latched : Latched s → Latched t
  district : ∀ action, t.districtAction = some action →
    s.districtAction = some action ∨ action = .control1 ∨ action = .control3

theorem driven_refl (s : AccessoryState) : Driven s s := ⟨rfl, id, fun _ h => Or.inl h⟩

theorem driven_setPower (h : Driven s t) (on : Bool) : Driven s (t.setPower on) where
  kind := by cases on <;> exact h.kind
  latched hs := latched_setPower (h.latched hs) on
  district action haction := h.district action (by cases on <;> exact haction)

theorem driven_applyRelay (m : BoardMessage .asc2) (s : AccessoryState) : Driven s (s.applyRelay m).1 := by
  unfold applyRelay
  split
  · split
    · have hclaimed : Driven s { s with claimed := true } := ⟨rfl, fun h => { h with }, fun _ h => Or.inl h⟩
      exact driven_setPower hclaimed _
    · exact driven_refl s
  · exact driven_refl s

theorem driven_claimDistrict {action : DistrictAction} (haction : action = .control1 ∨ action = .control3)
    (state : UInt8) (s : AccessoryState) : Driven s (s.claimDistrict action state) := by
  have hclaimed : Driven s { s with
      claimed := true
      isPowerDistrict := true
      districtAction := s.districtAction.or (some action) } := by
    refine ⟨rfl, fun h => { h with }, fun found hfound => ?_⟩
    rcases Option.or_eq_some_iff.mp hfound with hold | ⟨-, hnew⟩
    · exact Or.inl hold
    · cases hnew
      exact Or.inr haction
  exact driven_setPower hclaimed _

theorem driven_applyBoard (m : Message) (s : AccessoryState) : Driven s (s.applyBoard m).1 := by
  unfold applyBoard
  split
  · exact driven_applyRelay _ s
  · unfold applyDistrict
    split
    · exact driven_claimDistrict (Or.inl rfl) _ s
    · exact driven_claimDistrict (Or.inr rfl) _ s
    · exact driven_refl s
  · unfold applyOutputMessage
    split
    · exact ⟨rfl, fun h => { h with }, fun _ h => Or.inl h⟩
    · split
      · exact ⟨rfl, fun h => { h with }, fun _ h => Or.inl h⟩
      · exact driven_refl s
  · unfold applySensor
    split
    · exact ⟨rfl, fun h => { h with }, fun _ h => Or.inl h⟩
    · exact driven_refl s
  · exact driven_refl s

theorem ne_plain_of_kindOf? {m : Message} {offered : AccessoryKind} (h : kindOf? m = some offered) :
    offered ≠ .plain := by
  unfold kindOf? at h
  split at h <;> cases h <;> decide

theorem kept_applyKind (h : Kept s) {m : Message} {offered : AccessoryKind} (hoffered : offered ≠ .plain) (now : Nat) :
    Kept (s.applyKind now m offered).state := by
  have hdriven := driven_applyBoard m { s with kind := offered }
  have hkept : Kept (applyBoard m { s with kind := offered }).1 :=
    { named := (profile_applyBoard m { s with kind := offered }).symm ▸ h.named
      latched := hdriven.latched { h.latched with }
      plain := fun hplain => absurd (hdriven.kind.symm.trans hplain) hoffered
      district := fun action haction => (hdriven.district action haction).elim (h.district action) id }
  unfold applyKind
  split
  · split
    · rename_i heq
      rw [heq] at hkept
      exact kept_record hkept (.message m) now
    · rename_i heq
      rw [heq] at hkept
      exact hkept
  · exact h

theorem kept_applyMessage (h : Kept s) {m : Message} (hm : m.Spoken) (now : Nat) :
    Kept (s.applyMessage now m).state := by
  unfold applyMessage
  split
  · rename_i r
    show Kept (applyRecord now r s).1
    unfold applyRecord
    split
    · exact h
    · have hnamed := Profile.named_bindNames h.named (RecordMessage.readable_name? hm) (RecordMessage.readable_number? hm)
      exact { h with named := { hnamed with }, latched := { h.latched with } }
  · split
    · rename_i hoffered
      exact kept_applyKind h (ne_plain_of_kindOf? hoffered) now
    · exact h

theorem kept_update (h : Kept s) (hu : u.Spoken) (rules : Rules) (now : Nat) : Kept (s.update rules now u).state := by
  cases haccept : s.profile.accept .accessory u with
  | error e =>
      rw [update, haccept]
      exact h
  | ok q =>
      have hq : Kept { s with profile := q } :=
        { h with named := Profile.named_of_accept h.named haccept, latched := { h.latched with } }
      cases u with
      | command c =>
          rw [update_command haccept]
          exact kept_applyCommand hq rules now c
      | message m =>
          rw [update_message haccept]
          exact kept_applyMessage hq hu now

end AccessoryState
end RailLayout
