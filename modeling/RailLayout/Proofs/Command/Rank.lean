import RailLayout.Command.Trigger

/-!
Ranks tell operations apart (`Operation.rank_inj`), and triggers (`Trigger.rank_inj`).
-/

namespace RailLayout

theorem EngineOp.getElem?_rank (op : EngineOp) : all[op.rank]? = some op := by
  cases op <;> rfl

theorem SwitchOp.getElem?_rank (op : SwitchOp) : all[op.rank]? = some op := by
  cases op <;> rfl

theorem AccessoryOp.getElem?_rank (op : AccessoryOp) : all[op.rank]? = some op := by
  cases op <;> rfl

theorem RouteOp.getElem?_rank (op : RouteOp) : all[op.rank]? = some op := by
  cases op <;> rfl

theorem SyncOp.getElem?_rank (op : SyncOp) : all[op.rank]? = some op := by
  cases op <;> rfl

namespace Operation

/-- The place of an operation's kind in the order of operations, and its own place in the kind. -/
def place : Operation → Nat × Nat
  | engine .tmcc op => (0, op.rank)
  | engine .legacy op => (1, op.rank)
  | switch op => (2, op.rank)
  | accessory op => (3, op.rank)
  | route op => (4, op.rank)
  | halt => (5, 0)
  | sync op => (6, op.rank)

def ofPlace? : Nat × Nat → Option Operation
  | (0, n) => EngineOp.all[n]?.map (engine .tmcc)
  | (1, n) => EngineOp.all[n]?.map (engine .legacy)
  | (2, n) => SwitchOp.all[n]?.map switch
  | (3, n) => AccessoryOp.all[n]?.map accessory
  | (4, n) => RouteOp.all[n]?.map route
  | (5, _) => some halt
  | (6, n) => SyncOp.all[n]?.map sync
  | _ => none

theorem ofPlace?_place (o : Operation) : ofPlace? o.place = some o := by
  cases o with
  | engine generation op => cases generation <;> simp only [place, ofPlace?, op.getElem?_rank, Option.map_some]
  | switch op => simp only [place, ofPlace?, op.getElem?_rank, Option.map_some]
  | accessory op => simp only [place, ofPlace?, op.getElem?_rank, Option.map_some]
  | route op => simp only [place, ofPlace?, op.getElem?_rank, Option.map_some]
  | halt => rfl
  | sync op => simp only [place, ofPlace?, op.getElem?_rank, Option.map_some]

/-- There is room for sixty-four operations of each kind. -/
theorem rank_eq (o : Operation) : o.rank = 64 * o.place.1 + o.place.2 ∧ o.place.2 < 64 := by
  have hroom : ∀ {α : Type} {ops : List α} {n : Nat} {op : α}, ops[n]? = some op → ops.length ≤ 64 → n < 64 :=
    fun h hlength => Nat.lt_of_lt_of_le (List.getElem?_eq_some_iff.mp h).1 hlength
  cases o with
  | engine generation op =>
      have hop := hroom op.getElem?_rank (by decide)
      cases generation with
      | tmcc => exact ⟨(Nat.zero_add op.rank).symm, hop⟩
      | legacy => exact ⟨rfl, hop⟩
  | switch op => exact ⟨rfl, hroom op.getElem?_rank (by decide)⟩
  | accessory op => exact ⟨rfl, hroom op.getElem?_rank (by decide)⟩
  | route op => exact ⟨rfl, hroom op.getElem?_rank (by decide)⟩
  | halt => decide
  | sync op => exact ⟨rfl, hroom op.getElem?_rank (by decide)⟩

theorem rank_inj {a b : Operation} (h : a.rank = b.rank) : a = b := by
  obtain ⟨ha, hroomA⟩ := rank_eq a
  obtain ⟨hb, hroomB⟩ := rank_eq b
  have hplace : a.place = b.place := Prod.ext (by omega) (by omega)
  have hsame := ofPlace?_place a
  rw [hplace, ofPlace?_place b] at hsame
  exact (Option.some.inj hsame).symm

end Operation

theorem Trigger.rank_inj {a b : Trigger} (h : a.rank = b.rank) : a = b := by
  obtain ⟨o, d⟩ := a
  obtain ⟨o', d'⟩ := b
  cases d with
  | none =>
      cases d' with
      | none =>
          simp only [rank] at h
          rw [Operation.rank_inj (show o.rank = o'.rank by omega)]
      | some e' =>
          have hroom := e'.toNat_lt
          simp only [rank] at h
          omega
  | some e =>
      have hroom := e.toNat_lt
      cases d' with
      | none =>
          simp only [rank] at h
          omega
      | some e' =>
          have hroom' := e'.toNat_lt
          simp only [rank] at h
          rw [Operation.rank_inj (show o.rank = o'.rank by omega),
            UInt16.toNat_inj.mp (show e.toNat = e'.toNat by omega)]

end RailLayout
