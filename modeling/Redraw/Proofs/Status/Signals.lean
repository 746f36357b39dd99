import Redraw.Proofs.Gate.Blocking

/-!
# Signals and outcomes

The board counts for every chart how often it was signaled to be rendered and to have failed. A failure is
always signaled, and a success only where the chart is neither loading nor known to be rendered.
`Moment.Posting` says what a moment does to the entry of a chart: an attempt of the chart succeeds or fails,
the host posts on its board, or the entry stays as it is. A signaled success leaves the chart rendered, and
only the host and a failure take it from there, so two successes are never signaled in a row.
-/

namespace Redraw

/-- The answer to a callback that was signaled to the board. -/
def Answer.isSignaled : Answer → Bool
  | .callback (.applied signaled _) => signaled
  | _ => false

/-- The host itself signals that the chart was rendered. -/
def Operation.postsSuccess (op : Operation) (c : ChartId) : Bool :=
  match op with
  | .signalSuccess k => k = c
  | _ => false

/-- The host itself signals that the chart failed. -/
def Operation.postsFailure (op : Operation) (c : ChartId) : Bool :=
  match op with
  | .signalFailure k _ _ => k = c
  | _ => false

namespace Moment

/-- A callback for a success of the chart is applied. -/
def Succeeds (m : Moment) (c : ChartId) : Prop := ∃ a, m.completion? = some ⟨c, a, .success⟩

/-- A callback for a success of the chart is applied, and it is signaled to the board. -/
def SignalsSuccess (m : Moment) (c : ChartId) : Prop :=
  m.Succeeds c ∧ m.reply.answer.isSignaled = true

/-- The host changes the status of the chart. -/
def HostSets (m : Moment) (c : ChartId) : Prop :=
  m.op.isHost = true ∧ m.after.board.status? c ≠ m.before.board.status? c

instance (m : Moment) (c : ChartId) : Decidable (m.Fails c) :=
  decidable_of_iff (m.completion?.any fun x => x.chart = c && x.ending.errorText?.isSome) <| by
    unfold Fails
    cases m.completion? with
    | none => simp
    | some x =>
      obtain ⟨k, a, e⟩ := x
      cases e <;> simp [Ending.errorText?]

instance (m : Moment) (c : ChartId) : Decidable (m.Succeeds c) :=
  decidable_of_iff (m.completion?.any fun x => x.chart = c && x.ending.errorText?.isNone) <| by
    unfold Succeeds
    cases m.completion? with
    | none => simp
    | some x =>
      obtain ⟨k, a, e⟩ := x
      cases e <;> simp [Ending.errorText?]

instance (m : Moment) (c : ChartId) : Decidable (m.SignalsSuccess c) :=
  inferInstanceAs (Decidable (_ ∧ _))

/-- What a moment does to the entry of a chart on the board. -/
inductive Posting (m : Moment) (c : ChartId) : Prop where
  | succeeds (a : AttemptId) (guest : m.op.isHost = false)
      (completion : m.completion? = some ⟨c, a, .success⟩)
      (flag : m.reply.answer.isSignaled = Ending.success.signals (m.before.board.status? c))
      (board : m.after.board =
        if m.reply.answer.isSignaled then m.before.board.signalSuccess c else m.before.board)
  | fails (a : AttemptId) (error : String) (stack : Option String) (guest : m.op.isHost = false)
      (completion : m.completion? = some ⟨c, a, .failure error stack⟩)
      (board : m.after.board = m.before.board.signalFailure c error stack)
  | posts (host : m.op.isHost = true) (completion : m.completion? = none)
  | rests (guest : m.op.isHost = false) (completion : ∀ x, m.completion? = some x → x.chart ≠ c)
      (entry : m.after.board.get? c = m.before.board.get? c)

end Moment

/-! ## Entries of the board -/

/-- A change of one entry leaves the others alone. -/
theorem get?_update (b : StatusBoard) (k c : ChartId) (change : StatusEntry → StatusEntry) :
    (b.update k change).get? c = if k = c then some (change (b.entry c)) else b.get? c := by
  unfold StatusBoard.update
  by_cases same : k = c <;> simp [same]

theorem entry_update (b : StatusBoard) (k c : ChartId) (change : StatusEntry → StatusEntry) :
    (b.update k change).entry c = if k = c then change (b.entry c) else b.entry c := by
  unfold StatusBoard.entry
  rw [get?_update]
  by_cases same : k = c <;> simp [same, StatusBoard.entry]

theorem entry_signalSuccess (b : StatusBoard) (c : ChartId) :
    (b.signalSuccess c).entry c =
      { b.entry c with
        snapshot := { (b.entry c).snapshot with status := some .rendered }
        succeeded := (b.entry c).succeeded + 1 } := by
  unfold StatusBoard.signalSuccess
  rw [entry_update, if_pos rfl]

theorem entry_signalFailure (b : StatusBoard) (c : ChartId) (error : String) (stack : Option String) :
    (b.signalFailure c error stack).entry c =
      { b.entry c with
        snapshot := { (b.entry c).snapshot with status := some .error, alert := some error }
        stack := stack
        failed := (b.entry c).failed + 1 } := by
  unfold StatusBoard.signalFailure
  rw [entry_update, if_pos rfl]

theorem status?_signalSuccess (b : StatusBoard) (c : ChartId) :
    (b.signalSuccess c).status? c = some .rendered := by
  unfold StatusBoard.status? StatusBoard.snapshot
  rw [entry_signalSuccess]

/-- An ending of another chart leaves the entry of a chart alone. -/
theorem get?_signal_other {b : StatusBoard} {k c : ChartId} (other : k ≠ c) (e : Ending) :
    (e.signal b k).get? c = b.get? c := by
  obtain ⟨change, signal⟩ := e.signal_eq_update
  rw [signal, get?_update, if_neg other]

/-- A success is signaled exactly where the chart is neither loading nor rendered. -/
theorem Ending.signals_success_iff (status : Option ChartStatus) :
    Ending.success.signals status = true ↔ status ≠ some .loading ∧ status ≠ some .rendered := by
  cases status with
  | none => simp [signals]
  | some s => cases s <;> simp [signals]

theorem Ending.loading_or_rendered {status : Option ChartStatus}
    (unsignaled : ¬ Ending.success.signals status = true) :
    status = some .loading ∨ status = some .rendered := by
  rw [signals_success_iff] at unsignaled
  simpa [or_iff_not_imp_left] using unsignaled

/-! ## One moment -/

namespace Operation

variable {op : Operation} (c : ChartId)

/-- A callback is not an operation of the host. -/
theorem isHost_of_completion {x : Completion} (asked : op.completion? = some x) :
    op.isHost = false := by
  cases op with
  | complete _ _ _ | completeRecord _ _ => rfl
  | _ => exact nomatch asked

theorem isHost_of_input {i : RenderInput} (input : op.input? = some i) : op.isHost = false := by
  rcases eq_of_input input with rfl | rfl <;> rfl

theorem postsSuccess_of_guest (guest : op.isHost = false) : op.postsSuccess c = false := by
  cases op with
  | signalSuccess _ => exact nomatch guest
  | _ => rfl

theorem postsFailure_of_guest (guest : op.isHost = false) : op.postsFailure c = false := by
  cases op with
  | signalFailure _ _ _ => exact nomatch guest
  | _ => rfl

end Operation

namespace Moment

variable {m : Moment} {c : ChartId}

/-- Where no attempt is completed, none of the chart is. -/
theorem chart_ne_of_idle (completion : m.completion? = none) (x : Completion)
    (done : m.completion? = some x) : x.chart ≠ c := by
  rw [completion] at done
  exact nomatch done

/-- An applied callback says whether the ending was signaled. -/
theorem isSignaled_of_settled {x : Completion} {r : AttemptRecord}
    (asked : m.op.completion? = some x) (settled : (m.before.settle x.chart x.attempt).1 = .ok r) :
    m.reply.answer.isSignaled = x.ending.signals (m.before.board.status? x.chart) := by
  have applied := congrArg (fun o => (Answer.callback o.value).isSignaled)
    (Dashboard.complete_applied settled x.ending)
  obtain ⟨d, op⟩ := m
  cases op with
  | complete c a e =>
    obtain rfl := Option.some.inj asked
    exact applied
  | completeRecord s e =>
    obtain rfl := Option.some.inj asked
    exact applied
  | _ => exact nomatch asked

/-- Every moment does one of the four to the entry of every chart. -/
theorem posting (m : Moment) (c : ChartId) : m.Posting c := by
  cases m.finish with
  | called x r asked settled _ completion _ board _ =>
    have guest : m.op.isHost = false := Operation.isHost_of_completion asked
    have flag := isSignaled_of_settled asked settled
    obtain ⟨k, a, e⟩ := x
    by_cases own : k = c
    · subst own
      cases e with
      | success =>
        rw [← flag] at board
        exact .succeeds a guest completion flag board
      | failure error stack => exact .fails a error stack guest completion board
    · refine .rests guest (fun y done => ?_) ?_
      · obtain rfl := Option.some.inj (completion.symm.trans done)
        exact own
      · rw [board]
        split
        · exact get?_signal_other own e
        · rfl
  | refused i fault input _ _ completion _ board _ =>
    have guest : m.op.isHost = false := Operation.isHost_of_input input
    by_cases own : i.chart = c
    · subst own
      exact .fails _ fault.message none guest completion board
    · refine .rests guest (fun y done => ?_) ?_
      · obtain rfl := Option.some.inj (completion.symm.trans done)
        exact own
      · rw [board]
        exact get?_signal_other own (.failure fault.message none)
  | nothing completion _ board =>
    cases host : m.op.isHost with
    | true => exact .posts host completion
    | false => exact .rests host (chart_ne_of_idle completion) (congrArg (·.get? c) (board host))

theorem not_succeeds_of_fails (fails : m.Fails c) : ¬ m.Succeeds c := by
  obtain ⟨_, _, _, completion⟩ := fails
  rintro ⟨_, success⟩
  rw [completion] at success
  exact nomatch success

theorem not_succeeds_of_rest (completion : ∀ x, m.completion? = some x → x.chart ≠ c) :
    ¬ m.Succeeds c :=
  fun ⟨_, success⟩ => completion _ success rfl

theorem not_fails_of_rest (completion : ∀ x, m.completion? = some x → x.chart ≠ c) : ¬ m.Fails c :=
  fun ⟨_, _, _, failure⟩ => completion _ failure rfl

/-- The host counts its own signals. -/
theorem counts_of_host (host : m.op.isHost = true) :
    (m.after.board.entry c).succeeded =
        (m.before.board.entry c).succeeded + (if m.op.postsSuccess c then 1 else 0) ∧
      (m.after.board.entry c).failed =
        (m.before.board.entry c).failed + if m.op.postsFailure c then 1 else 0 := by
  obtain ⟨d, op⟩ := m
  cases op with
  | setStatus k _ | setOverlay k _ | setAlert k _ | signalSuccess k | signalFailure k _ _ =>
    by_cases own : k = c <;>
      simp [after, Dashboard.step, Dashboard.perform, Dashboard.quietly, StatusBoard.setStatus,
        StatusBoard.setOverlay, StatusBoard.setAlert, StatusBoard.signalSuccess,
        StatusBoard.signalFailure, Operation.postsSuccess, Operation.postsFailure, entry_update, own]
  | _ => exact nomatch host

/-- What a moment adds to the failures that are counted for a chart. -/
theorem failed_step (m : Moment) (c : ChartId) :
    (m.after.board.entry c).failed =
      (m.before.board.entry c).failed + (if m.Fails c then 1 else 0) +
        if m.op.postsFailure c then 1 else 0 := by
  cases m.posting c with
  | succeeds a guest completion _ board =>
    have spared : ¬ m.Fails c := fun fails => not_succeeds_of_fails fails ⟨a, completion⟩
    rw [board, if_neg spared, Operation.postsFailure_of_guest c guest]
    split
    · rw [entry_signalSuccess]
      rfl
    · rfl
  | fails a error stack guest completion board =>
    rw [board, if_pos ⟨a, error, stack, completion⟩, Operation.postsFailure_of_guest c guest,
      entry_signalFailure]
    rfl
  | posts host completion =>
    rw [if_neg (not_fails_of_rest (chart_ne_of_idle completion))]
    exact (counts_of_host host).2
  | rests guest completion entry =>
    rw [if_neg (not_fails_of_rest completion), Operation.postsFailure_of_guest c guest,
      StatusBoard.entry, entry]
    rfl

/-- What a moment adds to the successes that are counted for a chart. -/
theorem succeeded_step (m : Moment) (c : ChartId) :
    (m.after.board.entry c).succeeded =
      (m.before.board.entry c).succeeded + (if m.SignalsSuccess c then 1 else 0) +
        if m.op.postsSuccess c then 1 else 0 := by
  cases m.posting c with
  | succeeds a guest completion _ board =>
    rw [board, Operation.postsSuccess_of_guest c guest]
    by_cases signaled : m.reply.answer.isSignaled = true
    · have signals : m.SignalsSuccess c := ⟨⟨a, completion⟩, signaled⟩
      rw [if_pos signaled, if_pos signals, entry_signalSuccess]
      rfl
    · have quiet : ¬ m.SignalsSuccess c := fun signals => signaled signals.2
      rw [if_neg signaled, if_neg quiet]
      rfl
  | fails a error stack guest completion board =>
    have spared : ¬ m.SignalsSuccess c := fun signals =>
      not_succeeds_of_fails ⟨a, error, stack, completion⟩ signals.1
    rw [board, if_neg spared, Operation.postsSuccess_of_guest c guest, entry_signalFailure]
    rfl
  | posts host completion =>
    rw [if_neg fun signals => not_succeeds_of_rest (chart_ne_of_idle completion) signals.1]
    exact (counts_of_host host).1
  | rests guest completion entry =>
    rw [if_neg fun signals => not_succeeds_of_rest completion signals.1,
      Operation.postsSuccess_of_guest c guest, StatusBoard.entry, entry]
    rfl

/-- The board follows the outcomes of the attempts of a chart, and the flag of a success says whether it was
signaled. -/
structure BoardFollows (m : Moment) (c : ChartId) : Prop where
  flag : m.Succeeds c → (m.reply.answer.isSignaled = true ↔
    m.before.board.status? c ≠ some .loading ∧ m.before.board.status? c ≠ some .rendered)
  unsignaled : m.Succeeds c → m.reply.answer.isSignaled = false →
    m.after.board.get? c = m.before.board.get? c
  rendered : m.Succeeds c → m.after.board.status? c = some .rendered ∨
    m.before.board.status? c = some .loading ∧ m.after.board.status? c = some .loading
  failed : ∀ a error stack, m.completion? = some ⟨c, a, .failure error stack⟩ →
    m.after.board.status? c = some .error ∧ (m.after.board.snapshot c).alert = some error ∧
      (m.after.board.entry c).stack = stack
  kept : m.op.isHost = false → (∀ x, m.completion? = some x → x.chart ≠ c) →
    m.after.board.get? c = m.before.board.get? c

/-- The flag of an applied success goes by the status before it, and the board goes by the flag. -/
theorem Succeeds.signaled (succeeds : m.Succeeds c) :
    m.reply.answer.isSignaled = Ending.success.signals (m.before.board.status? c) ∧
      m.after.board =
        if m.reply.answer.isSignaled then m.before.board.signalSuccess c else m.before.board := by
  cases m.posting c with
  | succeeds _ _ _ flag board => exact ⟨flag, board⟩
  | fails a error stack _ completion _ =>
    exact absurd succeeds (not_succeeds_of_fails ⟨a, error, stack, completion⟩)
  | posts _ completion => exact absurd succeeds (not_succeeds_of_rest (chart_ne_of_idle completion))
  | rests _ completion _ => exact absurd succeeds (not_succeeds_of_rest completion)

/-- A signaled success leaves the chart rendered. -/
theorem SignalsSuccess.rendered (signals : m.SignalsSuccess c) :
    m.after.board.status? c = some .rendered := by
  rw [signals.1.signaled.2, if_pos signals.2]
  exact status?_signalSuccess m.before.board c

/-- A success leaves the chart rendered, or loading where the host is loading it. -/
theorem Succeeds.rendered (succeeds : m.Succeeds c) :
    m.after.board.status? c = some .rendered ∨
      m.before.board.status? c = some .loading ∧ m.after.board.status? c = some .loading := by
  by_cases signaled : m.reply.answer.isSignaled = true
  · exact .inl (SignalsSuccess.rendered ⟨succeeds, signaled⟩)
  · obtain ⟨flag, board⟩ := succeeds.signaled
    rw [if_neg signaled] at board
    rw [board]
    rw [flag] at signaled
    rcases Ending.loading_or_rendered signaled with loading | rendered
    · exact .inr ⟨loading, loading⟩
    · exact .inl rendered

/-- A failure is signaled whatever the status is. -/
theorem board_of_failure {a : AttemptId} {error : String} {stack : Option String}
    (failure : m.completion? = some ⟨c, a, .failure error stack⟩) :
    m.after.board = m.before.board.signalFailure c error stack := by
  cases m.posting c with
  | succeeds b _ completion _ _ =>
    exact absurd ⟨b, completion⟩ (not_succeeds_of_fails ⟨a, error, stack, failure⟩)
  | fails b text trace _ completion board =>
    obtain ⟨-, -, ending⟩ := Completion.mk.inj (Option.some.inj (completion.symm.trans failure))
    obtain ⟨rfl, rfl⟩ := Ending.failure.inj ending
    exact board
  | posts _ completion =>
    exact absurd ⟨a, error, stack, failure⟩ (not_fails_of_rest (chart_ne_of_idle completion))
  | rests _ completion _ => exact absurd ⟨a, error, stack, failure⟩ (not_fails_of_rest completion)

/-- Where no attempt of the chart is completed, only the host changes the entry of the chart. -/
theorem get?_of_rest (guest : m.op.isHost = false)
    (idle : ∀ x, m.completion? = some x → x.chart ≠ c) :
    m.after.board.get? c = m.before.board.get? c := by
  cases m.posting c with
  | succeeds a _ completion _ _ => exact absurd rfl (idle _ completion)
  | fails a error stack _ completion _ => exact absurd rfl (idle _ completion)
  | posts host _ =>
    rw [guest] at host
    exact nomatch host
  | rests _ _ entry => exact entry

theorem boardFollows (m : Moment) (c : ChartId) : m.BoardFollows c where
  flag succeeds := by
    rw [succeeds.signaled.1]
    exact Ending.signals_success_iff _
  unsignaled succeeds quiet := by
    rw [succeeds.signaled.2, quiet]
    rfl
  rendered succeeds := succeeds.rendered
  failed a error stack failure := by
    unfold StatusBoard.status? StatusBoard.snapshot
    rw [board_of_failure failure, entry_signalFailure]
    exact ⟨rfl, rfl, rfl⟩
  kept := get?_of_rest

/-- A rendered chart stays so until the host changes its status or an attempt of it fails. -/
theorem rendered_step (rendered : m.before.board.status? c = some .rendered)
    (quiet : ¬ (m.HostSets c ∨ m.Fails c)) : m.after.board.status? c = some .rendered := by
  cases m.posting c with
  | succeeds a _ completion _ _ =>
    rcases Succeeds.rendered ⟨a, completion⟩ with done | ⟨loading, -⟩
    · exact done
    · rw [rendered] at loading
      exact nomatch loading
  | fails a error stack _ completion _ =>
    exact absurd (.inr ⟨a, error, stack, completion⟩) quiet
  | posts host _ =>
    by_contra changed
    exact quiet (.inl ⟨host, fun same => changed (same.trans rendered)⟩)
  | rests _ _ entry =>
    unfold StatusBoard.status? StatusBoard.snapshot StatusBoard.entry at rendered ⊢
    rw [entry]
    exact rendered

end Moment

/-! ## Runs -/

/-- The board has counted for a chart what was signaled for it. -/
structure Tally (c : ChartId) (h : History) (d : Dashboard) : Prop where
  failed : (d.board.entry c).failed = h.countP (·.Fails c) + h.countP (·.op.postsFailure c)
  succeeded : (d.board.entry c).succeeded =
    h.countP (·.SignalsSuccess c) + h.countP (·.op.postsSuccess c)

/-- Every moment keeps the tally. -/
theorem Tally.step {c : ChartId} {h : History} {m : Moment} (t : Tally c h m.before) :
    Tally c (h ++ [m]) m.after := by
  constructor
  · rw [m.failed_step c, t.failed]
    simp only [List.countP_append, List.countP_singleton, decide_eq_true_eq]
    omega
  · rw [m.succeeded_step c, t.succeeded]
    simp only [List.countP_append, List.countP_singleton, decide_eq_true_eq]
    omega

theorem Tally.run {registry : Registry} {namer : ClassNamer} {clock : Clock} {sink : TelemetrySink}
    {hooks : Hooks} {c : ChartId} (ops : List Operation) :
    Tally c ((Dashboard.new registry namer clock sink hooks).history ops)
      ((Dashboard.new registry namer clock sink hooks).after ops) :=
  Dashboard.run_induction ⟨rfl, rfl⟩ (fun _ e op t => t.step (m := ⟨e, op⟩)) ops

/-- A chart is rendered from a signaled success on until the host changes its status or an attempt of it
fails. -/
theorem rendered_of_since {d : Dashboard} {c : ChartId} (ops : List Operation)
    (since : Since (·.SignalsSuccess c) (fun m => m.HostSets c ∨ m.Fails c) (d.history ops)) :
    (d.after ops).board.status? c = some .rendered := by
  refine Dashboard.run_induction
    (I := fun h e => Since (·.SignalsSuccess c) (fun m => m.HostSets c ∨ m.Fails c) h →
      e.board.status? c = some .rendered) (fun none => absurd none not_since_nil) ?_ ops since
  intro h e op ih now
  rcases since_snoc.1 now with signals | ⟨before, quiet⟩
  · exact signals.rendered
  · exact Moment.rendered_step (m := ⟨e, op⟩) (ih before) quiet

/-- Between two signaled successes of a chart the host changes its status or an attempt of it fails. -/
theorem between_signals {d : Dashboard} {ops : List Operation} {c : ChartId}
    {earlier between later : History} {m n : Moment}
    (split : d.history ops = earlier ++ m :: between ++ n :: later) (first : m.SignalsSuccess c)
    (second : n.SignalsSuccess c) : ∃ k ∈ between, k.HostSets c ∨ k.Fails c := by
  obtain ⟨before, past, now⟩ := Dashboard.history_before split
  -- Otherwise the chart is still rendered when the second success arrives, which is then not signaled.
  by_contra quiet
  have rendered : n.before.board.status? c = some .rendered := by
    rw [now]
    refine rendered_of_since before ⟨earlier, m, between, past.symm, first, ?_⟩
    exact fun k member changes => quiet ⟨k, member, changes⟩
  have flag := (n.boardFollows c).flag second.1
  exact (flag.1 second.2).2 rendered

/-- Take any run and any chart. The board has counted as failures of the chart the applied failures and the
refusals of the engine, and as successes the applied successes whose callback was told that they are
signaled. Signaled are those that find the chart neither loading nor rendered; the others leave its entry as
it is, so that every success leaves the chart rendered, or loading still. Every failure leaves the error, its
text and its stack. Apart from that only the host changes the entry, and what it signals itself is counted
beside. Between two signaled successes the host has changed the status, or an attempt has failed. -/
theorem signals_match_outcomes (registry : Registry) (namer : ClassNamer) (clock : Clock)
    (sink : TelemetrySink) (hooks : Hooks) (ops : List Operation) (c : ChartId) :
    let d := (Dashboard.new registry namer clock sink hooks).after ops
    let h := (Dashboard.new registry namer clock sink hooks).history ops
    (d.board.entry c).failed = h.countP (·.Fails c) + h.countP (·.op.postsFailure c) ∧
    (d.board.entry c).succeeded =
      h.countP (·.SignalsSuccess c) + h.countP (·.op.postsSuccess c) ∧
    (∀ m ∈ h, m.BoardFollows c) ∧
    ∀ earlier m between n later, h = earlier ++ m :: between ++ n :: later →
      m.SignalsSuccess c → n.SignalsSuccess c → ∃ k ∈ between, k.HostSets c ∨ k.Fails c := by
  intro d h
  have tally : Tally c h d := Tally.run ops
  refine ⟨tally.failed, tally.succeeded, fun m _ => m.boardFollows c, ?_⟩
  intro earlier m between n later split first second
  exact between_signals split first second

/-- Of three successes the second one finds the chart rendered, and is not signaled. -/
example :
    let ops : List Operation :=
      [.begin (.plain ⟨7⟩), .complete ⟨7⟩ ⟨1⟩ .success, .begin (.plain ⟨7⟩),
        .complete ⟨7⟩ ⟨2⟩ .success, .setStatus ⟨7⟩ none, .begin (.plain ⟨7⟩),
        .complete ⟨7⟩ ⟨3⟩ .success]
    ((Dashboard.blank.after ops).board.entry ⟨7⟩).succeeded = 2 := by
  decide

end Redraw
