import GatewayAgent.Rpc.Metrics
import GatewayAgent.Proofs.Dictionary

/-!
# What the instruments show

A record changes the readings of its own series by one and leaves all others as they are. Labels
tell calls and commands apart (`callLabels_inj`, `commandLabels_inj`), so what a series shows is how
many of its calls or commands have been recorded; and `total`, what a counter shows over all labels,
grows by one with every record.
-/

namespace GatewayAgent

/-! ### Labels -/

/-- Each class of outcomes has a label of its own. -/
theorem OutcomeClass.label_inj {status status' : OutcomeClass} :
    status.label = status'.label ↔ status = status' := by
  cases status <;> cases status' <;> decide

/-- Every outcome of a call. -/
private def outcomes : List (Option Code) := none :: Code.all.map some

/-- An outcome is found by its label, so no other one has this label. -/
private theorem find?_outcomeLabel (code : Option Code) :
    (outcomes.find? fun other => outcomeLabel other = outcomeLabel code) = some code := by
  cases code with
  | none => decide
  | some code => cases code <;> decide

/-- Each outcome of a call has a label of its own. -/
theorem outcomeLabel_inj {code code' : Option Code} :
    outcomeLabel code = outcomeLabel code' ↔ code = code' := by
  constructor
  · intro h
    have hfound := find?_outcomeLabel code
    rw [h, find?_outcomeLabel code', Option.some.injEq] at hfound
    exact hfound.symm
  · exact congrArg outcomeLabel

/-- What a reading adds to the total of its counter. -/
def Reading.counted : Reading → Nat
  | .count n => n
  | .durations .. | .level _ => 0

namespace Metrics

variable {m : Metrics} {s s' : Series} {i : Instrument} {method command : String}
  {code : Option Code} {result : CommandResult} {elapsed : Duration}
  {labels : List (String × String)}

/-- The labels of a call tell its method and its outcome. -/
theorem callLabels_inj {method' : String} {code' : Option Code} :
    callLabels method code = callLabels method' code' ↔ method = method' ∧ code = code' := by
  simp [callLabels, outcomeLabel_inj, and_comm]

/-- The labels of a command tell its type and its class of outcomes. -/
theorem commandLabels_inj {command' : String} {status status' : OutcomeClass} :
    commandLabels command status = commandLabels command' status' ↔
      command = command' ∧ status = status' := by
  simp [commandLabels, OutcomeClass.label_inj]

/-! ### Single series -/

/-- How many durations have been recorded in a series. -/
def durationCount (m : Metrics) (s : Series) : Nat :=
  match m.readings.find? s with
  | some (.durations n _) => n
  | _ => 0

/-- To observe a duration leaves the other series as they are. -/
theorem countOf_observe (h : s' ≠ s) : (m.observe s elapsed).countOf s' = m.countOf s' := by
  simp only [countOf, observe, Dictionary.find?_insert, if_neg h]

/-- To count leaves the other durations as they are. -/
theorem durationCount_count (h : s' ≠ s) :
    (m.count s).durationCount s' = m.durationCount s' := by
  simp only [durationCount, count, Dictionary.find?_insert, if_neg h]

/-- To observe a duration counts one more of its series. -/
theorem durationCount_observe :
    (m.observe s elapsed).durationCount s' =
      m.durationCount s' + if s' = s then 1 else 0 := by
  simp only [durationCount, observe, Dictionary.find?_insert]
  by_cases h : s' = s
  · subst h
    simp only [if_true]
    cases m.readings.find? s' with
    | none => rfl
    | some reading => cases reading <;> rfl
  · simp only [if_neg h, Nat.add_zero]

/-! ### All series of a counter -/

/-- What a counter shows over all labels. -/
def total (m : Metrics) (i : Instrument) : Nat :=
  (m.readings.entries.map fun e => if e.1.instrument = i then e.2.counted else 0).sum

/-- The count of a series is what its reading has counted. -/
theorem countOf_eq (m : Metrics) (s : Series) :
    m.countOf s = ((m.readings.find? s).map Reading.counted).getD 0 := by
  unfold countOf
  cases m.readings.find? s with
  | none => rfl
  | some reading => cases reading <;> rfl

/-- A new reading takes the place of the old one in the total of its counter. -/
theorem total_insert (m : Metrics) (s : Series) (reading : Reading) (i : Instrument) :
    ({ m with readings := m.readings.insert s reading }).total i +
        (if s.instrument = i then m.countOf s else 0) =
      m.total i + if s.instrument = i then reading.counted else 0 := by
  have h := m.readings.sum_entries_insert
    (fun e => if e.1.instrument = i then e.2.counted else 0) s reading
  rw [countOf_eq, total, total]
  by_cases hi : s.instrument = i
  · simp only [if_pos hi] at h ⊢
    exact h
  · simp only [if_neg hi] at h ⊢
    cases hs : m.readings.find? s <;> simpa [hs] using h

/-- To count one more of a series is to count one more of its instrument. -/
theorem total_count (m : Metrics) (s : Series) (i : Instrument) :
    (m.count s).total i = m.total i + if s.instrument = i then 1 else 0 := by
  have h := m.total_insert s (.count (m.countOf s + 1)) i
  rw [count]
  by_cases hi : s.instrument = i
  · simp only [if_pos hi, Reading.counted] at h ⊢
    omega
  · simpa only [if_neg hi, Nat.add_zero] using h

/-- A duration counts for its own instrument only. -/
theorem total_observe (h : s.instrument ≠ i) : (m.observe s elapsed).total i = m.total i := by
  simpa only [observe, if_neg h, Nat.add_zero] using m.total_insert s _ i

/-! ### Calls -/

/-- A call that is recorded counts once, under its labels. -/
theorem countOf_recordCall :
    (m.recordCall method code elapsed).countOf ⟨.rpcRequests, labels⟩ =
      m.countOf ⟨.rpcRequests, labels⟩ + if labels = callLabels method code then 1 else 0 := by
  rw [recordCall, countOf_observe (by simp), countOf_count]
  by_cases h : labels = callLabels method code <;> simp [h]

/-- The duration of a call that is recorded counts once, under its labels. -/
theorem durationCount_recordCall :
    (m.recordCall method code elapsed).durationCount ⟨.rpcDuration, labels⟩ =
      m.durationCount ⟨.rpcDuration, labels⟩ +
        if labels = callLabels method code then 1 else 0 := by
  rw [recordCall, durationCount_observe, durationCount_count (by simp)]
  simp

/-! ### Commands -/

/-- A command that is recorded counts once, under its labels. -/
theorem countOf_recordCommand :
    (m.recordCommand command result elapsed).countOf ⟨.commands, labels⟩ =
      m.countOf ⟨.commands, labels⟩ +
        if labels = commandLabels command (.of result) then 1 else 0 := by
  have hcount : ((m.count ⟨.commands, commandLabels command (.of result)⟩).observe
      ⟨.commandDuration, commandLabels command (.of result)⟩ elapsed).countOf
        ⟨.commands, labels⟩ = m.countOf ⟨.commands, labels⟩ +
          if labels = commandLabels command (.of result) then 1 else 0 := by
    rw [countOf_observe (by simp), countOf_count]
    by_cases h : labels = commandLabels command (.of result) <;> simp [h]
  unfold recordCommand
  dsimp only
  split
  · exact hcount
  · rw [countOf_count, if_neg (by simp), hcount]

/-- A command counts as an error if it has not succeeded. -/
theorem countOf_recordCommand_errors :
    (m.recordCommand command result elapsed).countOf ⟨.commandErrors, labels⟩ =
      m.countOf ⟨.commandErrors, labels⟩ +
        if OutcomeClass.of result ≠ .success ∧ labels = commandLabels command (.of result)
          then 1 else 0 := by
  have hcount : ((m.count ⟨.commands, commandLabels command (.of result)⟩).observe
      ⟨.commandDuration, commandLabels command (.of result)⟩ elapsed).countOf
        ⟨.commandErrors, labels⟩ = m.countOf ⟨.commandErrors, labels⟩ := by
    rw [countOf_observe (by simp), countOf_count, if_neg (by simp)]
  unfold recordCommand
  dsimp only
  split
  · next h => rw [hcount, if_neg (fun hne => hne.1 h), Nat.add_zero]
  · next h =>
    rw [countOf_count, hcount]
    by_cases hlabels : labels = commandLabels command (.of result)
    · subst hlabels
      rw [if_pos rfl, if_pos ⟨h, rfl⟩, hcount]
    · rw [if_neg (by simpa using hlabels), if_neg (fun hne => hlabels hne.2), Nat.add_zero]

/-- A command that is recorded counts once in all. -/
theorem total_recordCommand :
    (m.recordCommand command result elapsed).total .commands = m.total .commands + 1 := by
  unfold recordCommand
  dsimp only
  split
  · rw [total_observe (by simp), total_count, if_pos rfl]
  · rw [total_count, if_neg (by simp), total_observe (by simp), total_count, if_pos rfl]

/-- A command that has not succeeded counts once among the errors. -/
theorem total_recordCommand_errors :
    (m.recordCommand command result elapsed).total .commandErrors =
      m.total .commandErrors + if OutcomeClass.of result = .success then 0 else 1 := by
  unfold recordCommand
  dsimp only
  split
  · rw [total_observe (by simp), total_count, if_neg (by simp)]
  · rw [total_count, if_pos rfl, total_observe (by simp), total_count, if_neg (by simp)]

end Metrics

end GatewayAgent
