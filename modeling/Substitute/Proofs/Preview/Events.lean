import Substitute.Console.Prompt
import Substitute.Proofs.Compose.Toggling
import Substitute.Proofs.Preview.Landing

/-!
# What can happen to a composer

Besides the editor that is modelled there are others, and what a composer needs of one is little: it reports its events, it runs the callbacks it was given, in any order and as late as it likes, and it takes a deferred write as a `Reception` says. A change event tells the line, so the line after the keys were typed is that of the last one. The editor in memory is one such host.
-/

namespace Substitute

/-- A host after an effect, if it takes a write as `r` says. -/
def Host.receive (r : Reception) (h : Host) : Effect → Host
  | .setLine line cursor => if r.acceptsLine then { h with line, cursor } else h
  | .feed => if r.acceptsKeys then { h with line := r.echoes.getLastD h.line } else h
  | effect => h.absorb effect

namespace Composer

inductive Event where
  | entered
  | left
  /-- The user changes the line, and the host reports it. -/
  | typed (line : Text) (cursor : Int)
  /-- A bound key acts; `captured` is the text that a compose starts from. -/
  | key (captured : Text) (action : KeyAction)
  /-- The host runs a callback of the next turn. -/
  | perform (generation : Nat) (reception : Reception)
  /-- The host runs a timeout; `live` tells whether it is still there. -/
  | expire (generation : Nat) (live : Bool)

/-- Runs a callback of the next turn on a host that takes the write as `r` says. -/
def perform (s : Settings) (c : Composer) (generation : Nat) (r : Reception) : Composer :=
  let host := { c.editor.host with soon := c.editor.host.soon.erase generation }
  let step := c.editor.scheduler.perform generation r
  (c.take s ({ host := step.2.foldl (Host.receive r) host, scheduler := step.1 }, step.2)).1

def expire (s : Settings) (c : Composer) (generation : Nat) (live : Bool) : Composer :=
  let host := { c.editor.host with later := c.editor.host.later.erase generation }
  let step := c.editor.scheduler.expire generation (if live then some host.line else none)
  (c.take s ({ c.editor with host }.take step)).1

/-- A key that fails changes nothing. -/
def next (s : Settings) (c : Composer) : Event → Composer
  | .entered => c.entered
  | .left => (c.left s).1
  | .typed line cursor =>
    (c.take s ({ c.editor with host := { c.editor.host with line, cursor } }.lineChanged line)).1
  | .key captured action =>
    match c.act s captured action with
    | .ok (after, _) => after
    | .error _ => c
  | .perform generation r => c.perform s generation r
  | .expire generation live => c.expire s generation live

/-- A composer after events, callbacks in whatever order they run. -/
def after (s : Settings) (c : Composer) (events : List Event) : Composer :=
  events.foldl (next s) c

variable {s : Settings} {c : Composer}

/-- What holds in the beginning and survives every event of a kind holds after any number of them. -/
theorem after_induct {Q : Composer → Prop} {P : Event → Prop}
    (keep : ∀ c e, Q c → P e → Q (c.next s e)) {events : List Event} (hc : Q c)
    (hevents : ∀ e ∈ events, P e) : Q (c.after s events) := by
  induction events generalizing c with
  | nil => exact hc
  | cons e rest ih =>
    have hnext := keep c e hc (hevents e List.mem_cons_self)
    exact ih hnext fun later hmem => hevents later (List.mem_cons_of_mem _ hmem)

/-! ### Bound keys -/

/-- A compose starts a session of its own, whether one is outstanding or not, and queues its write. -/
theorem compose_eq {captured : Text} (hcaptured : captured.isEmpty = false) :
    c.compose s captured = (c.session.leave.compose s captured).map fun step =>
      (({ c with session := step.2 }.revise s step.1).1,
        ({ c with session := step.2 }.revise s step.1).2, true) := by
  have hanew := c.session.compose_anew s captured
  rw [compose, hcaptured, if_neg Bool.false_ne_true]
  cases hfirst : c.session.compose s captured with
  | ok step =>
    rw [hfirst] at hanew
    rw [← hanew]
    rfl
  | error e =>
    cases e with
    | noSeparators =>
      rw [hfirst] at hanew
      rw [← hanew]
      rfl
    | session e =>
      cases e
      cases c.session.leave.compose s captured <;> rfl

theorem compose_cases {captured : Text} {after : Composer} {effects : List Effect} {acted : Bool}
    (hcompose : c.compose s captured = .ok (after, effects, acted)) :
    (after = c ∧ acted = false) ∨
      ∃ r session, c.session.leave.compose s captured = .ok (r, session) ∧
        after = ({ c with session }.revise s r).1 ∧
        effects = ({ c with session }.revise s r).2 ∧ acted = true := by
  cases hcaptured : captured.isEmpty with
  | true =>
    rw [compose, hcaptured] at hcompose
    cases Except.ok.inj hcompose
    exact .inl ⟨rfl, rfl⟩
  | false =>
    rw [compose_eq hcaptured] at hcompose
    cases hstep : c.session.leave.compose s captured with
    | error e => simp [hstep] at hcompose
    | ok step =>
      rw [hstep] at hcompose
      cases Except.ok.inj hcompose
      exact .inr ⟨step.1, step.2, rfl, rfl, rfl, rfl⟩

theorem toggle_cases {toggle : Toggle} {flag : Option Text} {after : Composer}
    {effects : List Effect} {acted : Bool}
    (htoggle : c.toggle s toggle flag = .ok (after, effects, acted)) :
    (after = c ∧ acted = false) ∨
      ∃ r session, c.session.apply s toggle c.currentText flag = .ok (some (r, session)) ∧
        after = ({ c with session }.revise s r).1 ∧
        effects = ({ c with session }.revise s r).2 ∧ acted = true := by
  rw [Composer.toggle] at htoggle
  split at htoggle
  · cases Except.ok.inj htoggle
    exact .inl ⟨rfl, rfl⟩
  · cases happly : c.session.apply s toggle c.currentText flag with
    | error e => simp [happly] at htoggle
    | ok answer =>
      simp only [happly, ok_bind] at htoggle
      cases answer with
      | none =>
        cases Except.ok.inj htoggle
        exact .inl ⟨rfl, rfl⟩
      | some step =>
        cases Except.ok.inj htoggle
        exact .inr ⟨step.1, step.2, rfl, rfl, rfl, rfl⟩

theorem act_cases {captured : Text} {action : KeyAction} {after : Composer} {effects : List Effect}
    (hact : c.act s captured action = .ok (after, effects)) :
    after = c ∨ (∃ session r, after = ({ c with session }.revise s r).1) ∨
      after = (c.toggleDashboard s).1 := by
  cases action with
  | compose =>
    rw [act] at hact
    cases hcompose : c.compose s captured with
    | error e => simp [hcompose] at hact
    | ok step =>
      rw [hcompose] at hact
      obtain rfl : step.1 = after := congrArg Prod.fst (Except.ok.inj hact)
      obtain ⟨hsame, -⟩ | ⟨r, session, -, hrevised, -⟩ := compose_cases hcompose
      · exact .inl hsame
      · exact .inr (.inl ⟨session, r, hrevised⟩)
  | toggle toggle flag =>
    rw [act] at hact
    cases htoggle : c.toggle s toggle flag with
    | error e => simp [htoggle] at hact
    | ok step =>
      rw [htoggle] at hact
      obtain rfl : step.1 = after := congrArg Prod.fst (Except.ok.inj hact)
      obtain ⟨hsame, -⟩ | ⟨r, session, -, hrevised, -⟩ := toggle_cases htoggle
      · exact .inl hsame
      · exact .inr (.inl ⟨session, r, hrevised⟩)
  | dashboard => exact .inr (.inr (congrArg Prod.fst (Except.ok.inj hact)).symm)

end Composer

/-! ### The editor in memory -/

namespace Host

private theorem foldl_feed {step : Host → Effect → Host} (hrefresh : ∀ h text, step h (.refresh text) = h)
    (scheduler : Scheduler) (generation : Nat) (r : Reception) (h : Host) :
    (scheduler.feed generation r).2.foldl step h = step (step h (.later generation)) .feed := by
  have hkept : ∀ (h : Host) (effects : List Effect),
      (∀ effect ∈ effects, ∃ text, effect = .refresh text) → effects.foldl step h = h := by
    intro h effects hall
    refine List.foldlRecOn (motive := fun after => after = h) effects step rfl ?_
    intro after hafter effect hmem
    obtain ⟨text, rfl⟩ := hall effect hmem
    rw [hrefresh, hafter]
  rw [Scheduler.feed_effects, List.foldl_cons, List.foldl_cons]
  exact hkept _ _ (Scheduler.linesChanged_effects scheduler.armed r.echoes)

private theorem receive_handOver (h : Host) (pending : Option (Text × Int)) :
    (Scheduler.handOver pending).foldl (receive (h.reception pending)) h =
      (Scheduler.handOver pending).foldl absorb h := by
  cases pending with
  | none => rfl
  | some write =>
    cases hline : h.rejectsLine <;>
      simp [Scheduler.handOver, receive, absorb, reception, hline]

private theorem line_receive_feed {h : Host} (hlistens : h.listens = true) {pending : Option (Text × Int)}
    (hline : pending.isSome = true → h.rejectsLine = false) (generation : Nat) :
    ((((Scheduler.handOver pending).foldl absorb h).absorb (.later generation)).receive
        (h.reception pending) .feed).line =
      ((((Scheduler.handOver pending).foldl absorb h).absorb (.later generation)).absorb
        .feed).line := by
  cases pending with
  | none =>
    cases hkeys : h.rejectsKeys <;>
      simp [Scheduler.handOver, receive, absorb, reception, hlistens, hkeys]
  | some write =>
    have htakes := hline rfl
    cases hkeys : h.rejectsKeys <;>
      simp [Scheduler.handOver, receive, absorb, reception, hlistens, htakes, hkeys]

theorem line_receive_reception (h : Host) (hlistens : h.listens = true) (scheduler : Scheduler)
    (generation : Nat) :
    let r := h.reception scheduler.pending
    ((scheduler.perform generation r).2.foldl (receive r) h).line =
      ((scheduler.perform generation r).2.foldl absorb h).line := by
  intro r
  by_cases hgen : generation = scheduler.generation
  · subst hgen
    -- forgetting the cached preview does not concern the host
    have hhanded : (Effect.invalidate :: Scheduler.handOver scheduler.pending).foldl (receive r) h =
        (Scheduler.handOver scheduler.pending).foldl absorb h :=
      h.receive_handOver scheduler.pending
    cases hlive : r.live with
    | false =>
      rw [scheduler.perform_dead hlive]
      rfl
    | true =>
      by_cases hline : scheduler.pending.isSome = true → r.acceptsLine = true
      · have htakes : scheduler.pending.isSome = true → h.rejectsLine = false := by
          simpa [r, reception] using hline
        rw [scheduler.perform_accepted hlive hline, List.foldl_append, List.foldl_append,
          foldl_feed fun _ _ => rfl, foldl_feed fun _ _ => rfl]
        rw [hhanded]
        exact line_receive_feed hlistens htakes scheduler.generation
      · obtain ⟨hpending, hrefused⟩ := Classical.not_imp.mp hline
        rw [scheduler.perform_refused hlive hpending (eq_false_of_ne_true hrefused)]
        exact congrArg line hhanded
  · rw [scheduler.perform_stale hgen]
    rfl

end Host

namespace Composer

variable {s : Settings} {c : Composer}

/-- To run a callback on the editor in memory is to run it on a host that takes the write as the editor does. -/
theorem perform_reception (hlistens : c.editor.host.listens = true) (generation : Nat) :
    let host := { c.editor.host with soon := c.editor.host.soon.erase generation }
    let ran := (c.take s (({ c.editor with host } : Editor).runSoon generation)).1
    let told := c.perform s generation (c.editor.host.reception c.editor.scheduler.pending)
    told.editor.scheduler = ran.editor.scheduler ∧ told.session = ran.session ∧
      told.dashboard = ran.dashboard ∧ told.editor.host.line = ran.editor.host.line := by
  intro host ran told
  exact ⟨rfl, rfl, rfl, host.line_receive_reception hlistens c.editor.scheduler generation⟩

theorem next_typed_eq_typed (hlistens : c.editor.host.listens = true) (line : Text) (cursor : Int) :
    c.next s (.typed line cursor) = (c.take s (c.editor.typed line cursor)).1 := by
  rw [next, Editor.typed]
  simp only [hlistens, if_true]

end Composer

end Substitute
