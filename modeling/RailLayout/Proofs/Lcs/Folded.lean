import Mathlib.Data.List.DropRight
import RailLayout.Lcs.Message

/-!
What is known of a motor and lamp controller after its messages. A message tells one part of the configuration, or all
of it, or nothing. After any messages each part is as the last one told it since all of it was told, and the rest is as
all of it was told last (`OutputConfig.report_folded`). So messages that tell different parts may come in any order, but
not a whole configuration and a part of it (`OutputConfig.fold_comm_iff`).
-/

namespace RailLayout

/-- A part of a configuration that one report tells: how fast a motor turns and which way, how a motor output is
driven, or how bright a lamp is. -/
inductive OutputPart where
  | motion1
  | motion2
  | drive1
  | drive2
  | lamp1
  | lamp2
  | lamp3
  | lamp4
  deriving DecidableEq

namespace OutputReport

/-- The part that a report tells; a query tells nothing, nor does an index past the outputs. -/
def part? : OutputReport → Option OutputPart
  | select _ => none
  | motor index _ _ => if index = 0 then some .motion1 else if index = 1 then some .motion2 else none
  | lamp index _ =>
    if index = 0 then some .lamp1
    else if index = 1 then some .lamp2
    else if index = 2 then some .lamp3
    else if index = 3 then some .lamp4
    else none
  | motorConfig index _ _ => if index = 0 then some .drive1 else if index = 1 then some .drive2 else none

/-- Whether a report sets no output: a query does not, nor does a report with an index past the outputs. -/
def Outside : OutputReport → Prop
  | select _ => True
  | motor index _ _ => 2 ≤ index
  | lamp index _ => 4 ≤ index
  | motorConfig index _ _ => 2 ≤ index

theorem part?_eq_none {r : OutputReport} (h : r.Outside) : r.part? = none := by
  have hpast (index bound least : UInt8) (hleast : least < bound) (hle : bound ≤ index) : index ≠ least := by
    rintro rfl
    exact absurd hle (UInt8.not_le.mpr hleast)
  cases r with
  | select index => rfl
  | motor index speed rotation =>
      simp only [part?, if_neg (hpast index 2 0 (by decide) h), if_neg (hpast index 2 1 (by decide) h)]
  | lamp index level =>
      simp only [part?, if_neg (hpast index 4 0 (by decide) h), if_neg (hpast index 4 1 (by decide) h),
        if_neg (hpast index 4 2 (by decide) h), if_neg (hpast index 4 3 (by decide) h)]
  | motorConfig index outputType restoreState =>
      simp only [part?, if_neg (hpast index 2 0 (by decide) h), if_neg (hpast index 2 1 (by decide) h)]

end OutputReport

namespace OutputConfig

variable {c d : OutputConfig}

/-- The report that tells a part as it is in a configuration. -/
def report (c : OutputConfig) : OutputPart → OutputReport
  | .motion1 => .motor 0 c.motor1.speed c.motor1.rotation
  | .motion2 => .motor 1 c.motor2.speed c.motor2.rotation
  | .drive1 => .motorConfig 0 c.motor1.outputType c.motor1.restoreState
  | .drive2 => .motorConfig 1 c.motor2.outputType c.motor2.restoreState
  | .lamp1 => .lamp 0 c.lamp1
  | .lamp2 => .lamp 1 c.lamp2
  | .lamp3 => .lamp 2 c.lamp3
  | .lamp4 => .lamp 3 c.lamp4

/-- What of a configuration no report on a part tells. -/
structure Rest where
  tmccId : UInt8
  debug : UInt8
  option : UInt16
  accessType : AccessType
  restore1 : Bool
  restore2 : Bool

def rest (c : OutputConfig) : Rest :=
  ⟨c.tmccId, c.debug, c.option, c.accessType, c.motor1.restore, c.motor2.restore⟩

/-- A configuration is its parts and the rest. -/
theorem eq_of_report_eq (hreport : ∀ p, c.report p = d.report p) (hrest : c.rest = d.rest) : c = d := by
  obtain ⟨_, _, _, _, ⟨_, _, _, _, _⟩, ⟨_, _, _, _, _⟩, _, _, _, _⟩ := c
  obtain ⟨_, _, _, _, ⟨_, _, _, _, _⟩, ⟨_, _, _, _, _⟩, _, _, _, _⟩ := d
  have hmotion1 := hreport .motion1
  have hmotion2 := hreport .motion2
  have hdrive1 := hreport .drive1
  have hdrive2 := hreport .drive2
  have hlamp1 := hreport .lamp1
  have hlamp2 := hreport .lamp2
  have hlamp3 := hreport .lamp3
  have hlamp4 := hreport .lamp4
  simp only [report, rest, OutputReport.motor.injEq, OutputReport.motorConfig.injEq, OutputReport.lamp.injEq,
    Rest.mk.injEq] at *
  simp only [*]

end OutputConfig

namespace OutputReport

/-- A report that tells a part tells it, and nothing else. -/
theorem report_applyTo (r : OutputReport) (c : OutputConfig) (p : OutputPart) :
    (r.applyTo c).report p = if r.part? = some p then r else c.report p := by
  cases r with
  | select index => rfl
  | motor index speed rotation =>
      by_cases h0 : index = 0
      · subst h0
        cases p <;> rfl
      · by_cases h1 : index = 1
        · subst h1
          cases p <;> rfl
        · simp only [applyTo, OutputConfig.modifyMotor, part?, if_neg h0, if_neg h1]
          rfl
  | lamp index level =>
      by_cases h0 : index = 0
      · subst h0
        cases p <;> rfl
      · by_cases h1 : index = 1
        · subst h1
          cases p <;> rfl
        · by_cases h2 : index = 2
          · subst h2
            cases p <;> rfl
          · by_cases h3 : index = 3
            · subst h3
              cases p <;> rfl
            · simp only [applyTo, OutputConfig.setLamp, part?, if_neg h0, if_neg h1, if_neg h2, if_neg h3]
              rfl
  | motorConfig index outputType restoreState =>
      by_cases h0 : index = 0
      · subst h0
        cases p <;> rfl
      · by_cases h1 : index = 1
        · subst h1
          cases p <;> rfl
        · simp only [applyTo, OutputConfig.modifyMotor, part?, if_neg h0, if_neg h1]
          rfl

theorem rest_applyTo (r : OutputReport) (c : OutputConfig) : (r.applyTo c).rest = c.rest := by
  cases r with
  | select index => rfl
  | motor index speed rotation =>
      simp only [applyTo, OutputConfig.modifyMotor]
      repeat' split
      all_goals rfl
  | lamp index level =>
      simp only [applyTo, OutputConfig.setLamp]
      repeat' split
      all_goals rfl
  | motorConfig index outputType restoreState =>
      simp only [applyTo, OutputConfig.modifyMotor]
      repeat' split
      all_goals rfl

end OutputReport

namespace OutputConfig

variable {c w : OutputConfig} {p : OutputPart} {m n : BoardMessage .amc2}

/-! ## One message -/

/-- The whole configuration that a message tells, unless it is a refusal. -/
def whole? (m : BoardMessage .amc2) : Option OutputConfig :=
  if m.isRefusal then none
  else match m.body with
    | .config w => some w
    | _ => none

/-- The report in a message that tells a part, unless it is a refusal. -/
def told? (p : OutputPart) (m : BoardMessage .amc2) : Option OutputReport :=
  if m.isRefusal then none
  else match m.body with
    | .report r => if r.part? = some p then some r else none
    | _ => none

theorem fold_of_whole? (h : whole? m = some w) : c.fold m = w := by
  unfold whole? at h
  unfold fold
  split at h
  · cases h
  · rename_i hanswer
    rw [if_neg hanswer]
    cases hbody : m.body with
    | config v =>
        rw [hbody] at h
        exact Option.some.inj h
    | _ =>
        rw [hbody] at h
        cases h

theorem told?_of_whole? (h : whole? m = some w) : told? p m = none := by
  unfold whole? at h
  unfold told?
  split at h
  · cases h
  · rename_i hanswer
    rw [if_neg hanswer]
    cases hbody : m.body with
    | report r =>
        rw [hbody] at h
        cases h
    | _ => rfl

/-- A message that does not tell the whole leaves a configuration but for the part that it tells. -/
theorem fold_cases (h : whole? m = none) :
    (∃ r, (∀ c : OutputConfig, c.fold m = r.applyTo c) ∧ ∀ p, told? p m = if r.part? = some p then some r else none) ∨
      (∀ c : OutputConfig, c.fold m = c) ∧ ∀ p, told? p m = none := by
  unfold whole? at h
  unfold fold told?
  split at h
  · rename_i hrefusal
    exact .inr ⟨fun c => if_pos hrefusal, fun p => if_pos hrefusal⟩
  · rename_i hanswer
    simp only [if_neg hanswer]
    cases hbody : m.body with
    | config v =>
        rw [hbody] at h
        cases h
    | report r => exact .inl ⟨r, fun c => rfl, fun p => rfl⟩
    | common body => exact .inr ⟨fun c => rfl, fun p => rfl⟩

theorem report_fold (h : whole? m = none) (c : OutputConfig) (p : OutputPart) :
    (c.fold m).report p = (told? p m).getD (c.report p) := by
  obtain ⟨r, hfold, htold⟩ | ⟨hfold, htold⟩ := fold_cases h
  · rw [hfold, htold, r.report_applyTo]
    split <;> rfl
  · rw [hfold, htold]
    rfl

theorem rest_fold (h : whole? m = none) (c : OutputConfig) : (c.fold m).rest = c.rest := by
  obtain ⟨r, hfold, -⟩ | ⟨hfold, -⟩ := fold_cases h
  · rw [hfold, r.rest_applyTo]
  · rw [hfold]

/-- The same message again changes nothing. -/
theorem fold_fold (c : OutputConfig) (m : BoardMessage .amc2) : (c.fold m).fold m = c.fold m := by
  cases h : whole? m with
  | some w => rw [fold_of_whole? h, fold_of_whole? h]
  | none =>
      refine eq_of_report_eq (fun p => ?_) (rest_fold h _)
      rw [report_fold h, report_fold h]
      cases told? p m <;> rfl

/-- Whether a message tells nothing of a configuration: it is a refusal, its body is one that all boards have, or its
report sets no output. -/
def Silent (m : BoardMessage .amc2) : Prop :=
  m.isRefusal = true ∨ (∃ body, m.body = .common body) ∨ ∃ r, m.body = .report r ∧ r.Outside

theorem fold_of_silent (h : Silent m) (c : OutputConfig) : c.fold m = c := by
  unfold fold
  split
  · rfl
  · rename_i hanswer
    rcases h with hrefusal | ⟨body, hbody⟩ | ⟨r, hbody, houtside⟩
    · exact absurd hrefusal hanswer
    · rw [hbody]
    · rw [hbody]
      refine eq_of_report_eq (fun p => ?_) (r.rest_applyTo c)
      rw [r.report_applyTo, OutputReport.part?_eq_none houtside]
      exact if_neg nofun

theorem update_of_fold_eq (h : c.fold m = c) : c.update m = (c, false) := by
  simp only [update, h, bne_self_eq_false]

theorem update_changed_iff (c : OutputConfig) (m : BoardMessage .amc2) :
    (c.update m).2 = true ↔ (c.update m).1 ≠ c :=
  bne_iff_ne

/-! ## Two messages -/

/-- Whether two messages may come in either order: what one tells of the whole the other does not change, and a part
that both tell they tell alike. -/
structure Unordered (m n : BoardMessage .amc2) : Prop where
  left : ∀ w, whole? m = some w → w.fold n = w
  right : ∀ w, whole? n = some w → w.fold m = w
  alike : ∀ p r q, told? p m = some r → told? p n = some q → r = q

theorem fold_comm_iff :
    (∀ c : OutputConfig, (c.fold m).fold n = (c.fold n).fold m) ↔ Unordered m n := by
  constructor
  · intro hcomm
    refine ⟨fun w hw => ?_, fun w hw => ?_, fun p r q hr hq => ?_⟩
    · have h := hcomm w
      rwa [fold_of_whole? hw, fold_of_whole? hw] at h
    · have h := hcomm w
      rw [fold_of_whole? hw, fold_of_whole? hw] at h
      exact h.symm
    · have hm : whole? m = none := Option.eq_none_iff_forall_ne_some.mpr fun w hw =>
        Option.some_ne_none r (hr.symm.trans (told?_of_whole? hw))
      have hn : whole? n = none := Option.eq_none_iff_forall_ne_some.mpr fun w hw =>
        Option.some_ne_none q (hq.symm.trans (told?_of_whole? hw))
      have h := congrArg (report · p) (hcomm initial)
      simp only [report_fold hm, report_fold hn, hr, hq, Option.getD_some] at h
      exact h.symm
  · intro h c
    cases hm : whole? m with
    | some w => rw [fold_of_whole? hm, fold_of_whole? hm, h.left w hm]
    | none =>
        cases hn : whole? n with
        | some w => rw [fold_of_whole? hn, fold_of_whole? hn, h.right w hn]
        | none =>
            refine eq_of_report_eq (fun p => ?_) ?_
            · simp only [report_fold hm, report_fold hn]
              cases hr : told? p m with
              | none => rfl
              | some r =>
                  cases hq : told? p n with
                  | none => rfl
                  | some q => exact (h.alike p r q hr hq).symm
            · simp only [rest_fold hm, rest_fold hn]

/-- Messages that tell different parts may come in either order. -/
theorem unordered_of_apart (hm : whole? m = none) (hn : whole? n = none)
    (hapart : ∀ p, told? p m = none ∨ told? p n = none) : Unordered m n where
  left w hw := by
    rw [hm] at hw
    cases hw
  right w hw := by
    rw [hn] at hw
    cases hw
  alike p r q hr hq := by
    rcases hapart p with hnone | hnone
    · rw [hnone] at hr
      cases hr
    · rw [hnone] at hq
      cases hq

/-! ## A run of messages -/

/-- The messages after the last one that tells the whole configuration. -/
def since (ms : List (BoardMessage .amc2)) : List (BoardMessage .amc2) := ms.rtakeWhile fun m => (whole? m).isNone

/-- The last whole configuration that messages tell, or the one before them. -/
def lastWhole (c : OutputConfig) (ms : List (BoardMessage .amc2)) : OutputConfig :=
  (ms.filterMap whole?).getLast?.getD c

/-- The last report on a part in messages. -/
def lastTold? (p : OutputPart) (ms : List (BoardMessage .amc2)) : Option OutputReport :=
  (ms.filterMap (told? p)).getLast?

theorem lastTold?_concat (p : OutputPart) (ms : List (BoardMessage .amc2)) (m : BoardMessage .amc2) :
    lastTold? p (ms ++ [m]) = (told? p m).or (lastTold? p ms) := by
  simp only [lastTold?, List.filterMap_append, List.getLast?_append]
  cases h : told? p m <;> simp [h]

/-- After any messages each part is as it was told last since the whole was told, or as it was told with the whole, and
the rest is as it was told with the whole. -/
theorem report_folded (c : OutputConfig) (ms : List (BoardMessage .amc2)) :
    (∀ p, (ms.foldl fold c).report p = (lastTold? p (since ms)).getD ((lastWhole c ms).report p)) ∧
      (ms.foldl fold c).rest = (lastWhole c ms).rest := by
  induction ms using List.reverseRecOn with
  | nil => exact ⟨fun p => rfl, rfl⟩
  | append_singleton ms m ih =>
      rw [List.foldl_append, List.foldl_cons, List.foldl_nil]
      cases h : whole? m with
      | some w =>
          have hsince : since (ms ++ [m]) = [] := by
            simp [since, h]
          have hlast : lastWhole c (ms ++ [m]) = w := by
            simp [lastWhole, h]
          rw [fold_of_whole? h, hsince, hlast]
          exact ⟨fun p => rfl, rfl⟩
      | none =>
          have hsince : since (ms ++ [m]) = since ms ++ [m] := by
            simp [since, h]
          have hlast : lastWhole c (ms ++ [m]) = lastWhole c ms := by
            simp [lastWhole, h]
          rw [hsince, hlast]
          refine ⟨fun p => ?_, (rest_fold h _).trans ih.2⟩
          rw [report_fold h, lastTold?_concat, ih.1]
          cases told? p m <;> rfl

/-- A configuration that messages keep current is as it was told last: each part since the whole was told, the rest
with the whole. A message that tells nothing changes nothing, a change is reported exactly if there is one, and the same
message again reports none. Two messages may come in either order exactly if neither changes a whole configuration that
the other tells and no part is told differently by both; so messages that tell different parts may. -/
theorem updated_as_told (c : OutputConfig) (ms : List (BoardMessage .amc2)) :
    (∀ p, (ms.foldl (fun c m => (c.update m).1) c).report p =
        (lastTold? p (since ms)).getD ((lastWhole c ms).report p)) ∧
      (ms.foldl (fun c m => (c.update m).1) c).rest = (lastWhole c ms).rest ∧
      (∀ m, Silent m → c.update m = (c, false)) ∧
      (∀ m, (c.update m).2 = true ↔ (c.update m).1 ≠ c) ∧
      (∀ m, (c.update m).1.update m = ((c.update m).1, false)) ∧
      (∀ m n, whole? m = none → whole? n = none → (∀ p, told? p m = none ∨ told? p n = none) →
        ((c.update m).1.update n).1 = ((c.update n).1.update m).1) ∧
      ∀ m n, (∀ c : OutputConfig, ((c.update m).1.update n).1 = ((c.update n).1.update m).1) ↔ Unordered m n :=
  ⟨(report_folded c ms).1, (report_folded c ms).2, fun _ h => update_of_fold_eq (fold_of_silent h c),
    update_changed_iff c, fun m => update_of_fold_eq (fold_fold c m),
    fun _ _ hm hn hapart => fold_comm_iff.mpr (unordered_of_apart hm hn hapart) c, fun _ _ => fold_comm_iff⟩

/-- A motor and a lamp may be told in either order, and a motor past the outputs is not told at all. After a report on a
motor, a whole configuration and a report on a lamp the motor is as in the configuration, and the lamp as in its report. -/
theorem updated_as_told_apart :
    ∃ whole motor lamp past : BoardMessage .amc2,
      BoardMessage.ofFrame .amc2
          ⟨.amc2Rx, [9, 3, 9, 0, 0, 1, 2, 0, 2, 1, 2, 1, 0, 1, 0, 50, 15, 10, 20, 30, 40]⟩ = .ok whole ∧
        BoardMessage.ofFrame .amc2 ⟨.amc2Set, [9, 0x10, 1, 75, 2]⟩ = .ok motor ∧
        BoardMessage.ofFrame .amc2 ⟨.amc2Set, [9, 0x11, 2, 60]⟩ = .ok lamp ∧
        BoardMessage.ofFrame .amc2 ⟨.amc2Set, [9, 0x10, 7, 75, 2]⟩ = .ok past ∧ Silent past ∧
        (∀ p, told? p motor = none ∨ told? p lamp = none) ∧ initial.update past = (initial, false) ∧
        ((initial.update motor).1.update lamp).1 = ((initial.update lamp).1.update motor).1 ∧
        let c := [motor, whole, lamp, past].foldl (fun c m => (c.update m).1) initial
        c.report .motion2 = .motor 1 15 .reverse ∧ c.report .lamp3 = .lamp 2 60 := by
  obtain ⟨whole, hwhole⟩ : ∃ m, BoardMessage.ofFrame .amc2
      ⟨.amc2Rx, [9, 3, 9, 0, 0, 1, 2, 0, 2, 1, 2, 1, 0, 1, 0, 50, 15, 10, 20, 30, 40]⟩ = .ok m := ⟨_, rfl⟩
  obtain ⟨motor, hmotor⟩ : ∃ m, BoardMessage.ofFrame .amc2 ⟨.amc2Set, [9, 0x10, 1, 75, 2]⟩ = .ok m := ⟨_, rfl⟩
  obtain ⟨lamp, hlamp⟩ : ∃ m, BoardMessage.ofFrame .amc2 ⟨.amc2Set, [9, 0x11, 2, 60]⟩ = .ok m := ⟨_, rfl⟩
  obtain ⟨past, hpast⟩ : ∃ m, BoardMessage.ofFrame .amc2 ⟨.amc2Set, [9, 0x10, 7, 75, 2]⟩ = .ok m := ⟨_, rfl⟩
  have hspast : Silent past := by
    cases hpast
    exact Or.inr (Or.inr ⟨_, rfl, show (2 : UInt8) ≤ 7 by decide⟩)
  have hapart : ∀ p, told? p motor = none ∨ told? p lamp = none := by
    cases hmotor
    cases hlamp
    intro p
    cases p <;> first | exact Or.inl rfl | exact Or.inr rfl
  obtain ⟨hreport, -, hsilent, -, -, hcomm, -⟩ := updated_as_told initial [motor, whole, lamp, past]
  have hbefore := hcomm motor lamp (by cases hmotor; rfl) (by cases hlamp; rfl) hapart
  refine ⟨whole, motor, lamp, past, hwhole, hmotor, hlamp, hpast, hspast, hapart, hsilent past hspast, hbefore, ?_, ?_⟩
  · rw [hreport]
    cases hwhole
    cases hmotor
    cases hlamp
    cases hpast
    rfl
  · rw [hreport]
    cases hwhole
    cases hmotor
    cases hlamp
    cases hpast
    rfl

/-- A configuration and a report on a motor, of different kinds, may not come in either order. -/
theorem config_motor_ordered :
    ∃ (m n : BoardMessage .amc2) (w : OutputConfig) (r : OutputReport),
      BoardMessage.ofFrame .amc2 ⟨.amc2Set, [9, 0x10, 0, 75, 2]⟩ = .ok m ∧ m.isRefusal = false ∧ m.body = .report r ∧
        BoardMessage.ofFrame .amc2
            ⟨.amc2Rx, [9, 3, 9, 0, 0, 1, 2, 0, 2, 1, 2, 1, 0, 1, 0, 50, 15, 10, 20, 30, 40]⟩ = .ok n ∧
        n.isRefusal = false ∧ n.body = .config w ∧
        ((initial.update m).1.update n).1 ≠ ((initial.update n).1.update m).1 :=
  ⟨_, _, _, _, rfl, rfl, rfl, rfl, rfl, rfl, by decide⟩

end OutputConfig
end RailLayout
