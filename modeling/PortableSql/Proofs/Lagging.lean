import PortableSql.Proofs.Leaving

/-!
# Depths behind a failure

Beginning and committing act on the primary and then on the master, and the first failure ends
both. A slot whose own call fails keeps its depth. But when the call on the primary ended well and
the one on the master fails, the primary is not taken back: its depth has moved and the master's has
not. A beginning that is tried again then counts twice on the primary and once on the master.
-/

namespace PortableSql

open Acting

namespace Control

variable {σ : Type} {server : Server σ} {control : Control} {slot : Slot} {world : World σ}

/-- A control that sends nothing ends well. -/
theorem onSlot_silent (server : Server σ) (world : World σ)
    (silent : control.statements slot.connection.dialect slot.depth = []) :
    (control.onSlot server (slot, world)).1 = .ok () := by
  have tells : (control.onSlot server).Tells slot world.engines
      fun outcome _ _ _ => outcome = .ok () :=
    onSlot_follows server (fun _ => rfl) fun _ sends => nomatch silent.symm.trans sends
  obtain ⟨outcome, after, added, later, ended, -, rfl⟩ := tells world rfl
  rw [ended]

/-- Only what is sent can fail. -/
theorem statements_of_error {failure : Failure}
    (failed : (control.onSlot server (slot, world)).1 = .error failure) :
    control.statements slot.connection.dialect slot.depth ≠ [] := by
  intro silent
  cases (onSlot_silent server world silent).symm.trans failed

/-- Beginning and committing act on every open slot. -/
theorem onSession_eq (moving : control ≠ .rollback) (server : Server σ) :
    control.onSession server = Session.onAll (control.onSlot server) := by
  cases control with
  | begin | commit => rfl
  | rollback => exact absurd rfl moving

/-- Where something is sent, the depth moves. -/
theorem depth_ne {dialect : Dialect} {depth : Nat} (moving : control ≠ .rollback)
    (sends : control.statements dialect depth ≠ []) : control.depth depth ≠ depth := by
  cases control with
  | begin => exact Nat.succ_ne_self depth
  | commit =>
    have single : depth = 1 := by
      by_contra other
      exact sends (if_neg other)
    rw [single]
    decide
  | rollback => exact absurd rfl moving

end Control

namespace Session

variable {σ : Type} {server : Server σ} {control : Control} {session after : Session}
  {world later : World σ} {begins : List (Except Failure Unit)} {failure : Failure}

/-- Acting on every open slot goes on to the master when it ended well on the primary. -/
theorem onAll_apply (action : Acting σ Slot Unit) (session : Session) (world : World σ) :
    onAll action (session, world) = match action (session.primary, world) with
      | (.ok (), primary, later) => onMaster action ({ session with primary }, later)
      | (.error failure, primary, later) => (.error failure, { session with primary }, later) := by
  rw [onAll, bind_apply, onPrimary, Acting.within]
  rcases action (session.primary, world) with ⟨_ | _, primary, later⟩ <;> rfl

/-- Acting on a master that is open. -/
theorem onMaster_apply {slot : Slot} (opened : session.master? = some slot)
    (action : Acting σ Slot Unit) (world : World σ) :
    onMaster action (session, world) =
      ((action (slot, world)).1, { session with master? := some (action (slot, world)).2.1 },
        (action (slot, world)).2.2) := by
  rw [onMaster, this_bind_apply, opened]
  dsimp only
  rw [onActive, Acting.within, active_of_master opened, opened]
  rfl

/-- The depths of the open slots, the primary's first. -/
def depths (session : Session) : List Nat := session.slots.map Slot.depth

/-- How a control that failed ended on the primary and on the master, and what it left. -/
theorem failed_control {primary : Nat} (standing : session.Standing primary world.engines)
    (moving : control ≠ .rollback)
    (failed : control.onSession server (session, world) = (.error failure, after, later)) :
    (control.onSlot server (session.primary, world)).1 = .error failure ∧ after = session ∨
      (control.onSlot server (session.primary, world)).1 = .ok () ∧
        ∃ slot between, session.master? = some slot ∧
          (control.onSlot server (slot, between)).1 = .error failure ∧
          after = { session with
            primary := { session.primary with depth := control.depth session.primary.depth } } := by
  obtain ⟨first, _, _, between, ran, -, rfl, count, -⟩ :=
    control.onSlot_settles standing.opened server world rfl
  rw [control.onSession_eq moving, onAll_apply, ran] at failed
  rw [ran]
  cases first with
  | error reason =>
    rw [control.left_error moving] at failed
    cases failed
    exact .inl ⟨rfl, rfl⟩
  | ok done =>
    rw [control.left_ok] at failed
    dsimp only at failed
    cases opened : session.master? with
    | none =>
      rw [onMaster, this_bind_apply, opened] at failed
      cases failed
    | some slot =>
      obtain ⟨number, isOn, -⟩ := standing.master slot opened
      obtain ⟨second, _, _, last, ran, -, rfl, -, -⟩ :=
        control.onSlot_settles isOn server between rfl
      have still : Session.master? { session with
          primary := { session.primary with depth := control.depth session.primary.depth } } =
            some slot := opened
      rw [onMaster_apply still, ran] at failed
      refine .inr ⟨rfl, slot, between, rfl, ?_⟩
      cases second with
      | ok done => cases failed
      | error reason =>
        rw [control.left_error moving] at failed
        cases failed
        refine ⟨by rw [ran], ?_⟩
        rw [opened]

/-- A control that failed was sent something, for at equal depths the same is sent. -/
theorem failed_sends {primary : Nat} (standing : session.Standing primary world.engines)
    (agreed : ∀ slot ∈ session.slots, slot.depth = session.primary.depth)
    (moving : control ≠ .rollback)
    (failed : control.onSession server (session, world) = (.error failure, after, later)) :
    control.statements session.dialect session.primary.depth ≠ [] := by
  rcases failed_control standing moving failed with
    ⟨refused, -⟩ | ⟨-, slot, _, opened, refused, -⟩
  · rw [← standing.spoken]
    exact Control.statements_of_error refused
  · obtain ⟨_, -, -, -, spoken⟩ := standing.master slot opened
    have member : slot ∈ session.slots := by simp [slots, opened]
    rw [← agreed slot member, ← spoken]
    exact Control.statements_of_error refused

/-- A control that failed left the connections. -/
theorem failed_connections {primary : Nat} (standing : session.Standing primary world.engines)
    (moving : control ≠ .rollback)
    (failed : control.onSession server (session, world) = (.error failure, after, later)) :
    after.primary.connection.On primary ∧ after.Reaches := by
  rcases failed_control standing moving failed with ⟨-, rfl⟩ | ⟨-, _, _, -, -, rfl⟩
  · exact ⟨standing.opened, standing.reaches⟩
  · exact ⟨standing.opened, standing.reaches⟩

/-- A control that ends well moves the depth of every open slot. -/
theorem onSession_depths {primary engines : Nat} (isOn : session.primary.connection.On primary)
    (reaches : session.Reaches) (moving : control ≠ .rollback) (server : Server σ) :
    (control.onSession server).Tells session engines fun outcome after _ _ =>
      outcome = .ok () → after.depths = session.depths.map control.depth := by
  have settles : ∀ slot number, slot.connection.On number →
      (control.onSlot server).Tells slot engines fun outcome after later added =>
        later = engines ∧ after = { slot with depth := control.left outcome slot.depth } :=
    fun slot number isOn => control.onSlot_leaves isOn server
  rw [control.onSession_eq moving]
  refine (onPrimary_follows settles isOn).bind ?_ ?_
  · rintro failure after later added -
    exact fun wrong => nomatch wrong
  rintro ⟨⟩ after later added ⟨rfl, moved, rfl, rfl⟩
  have still : Reaches { session with
      primary := { session.primary with depth := control.left (.ok ()) session.primary.depth } } :=
    reaches
  refine (onMaster_follows settles still).imp ?_
  rintro outcome last final others ⟨-, master?, rfl, known⟩ rfl
  rw [control.left_ok]
  unfold depths slots
  generalize session.master? = before? at known ⊢
  cases known with
  | absent => rfl
  | present slotOn moved =>
    rw [moved, control.left_ok]
    rfl

/-- What a control leaves that failed on a session whose depths were equal. -/
structure Halts (server : Server σ) (control : Control) (before : Session) (world : World σ)
    (after : Session) : Prop where
  /-- It fails at the outermost level only. -/
  outermost : ∀ slot ∈ before.slots,
    control.statements before.dialect slot.depth ≠ []
  /-- When the primary's own call fails, nothing is changed. -/
  unmoved : (control.onSlot server (before.primary, world)).1 ≠ .ok () → after = before
  /-- Else the master's call failed, and the primary alone has moved. -/
  moved : (control.onSlot server (before.primary, world)).1 = .ok () →
    before.master?.isSome ∧ after = { before with
      primary := { before.primary with depth := control.depth before.primary.depth } }
  kept : after.depths = before.depths ↔
    (control.onSlot server (before.primary, world)).1 ≠ .ok ()
  /-- Tried again with success, it counts on each slot from where that is. -/
  retried : ∀ other last final, control.onSession server (after, other) = (.ok (), last, final) →
    last.depths = after.depths.map control.depth

/-- When beginning or committing fails on open slots of equal depth, it does so at the outermost
level, and the master keeps its depth. The primary keeps its own exactly when its own call failed;
otherwise it is out of step with the master, and a beginning that is tried again counts twice on it.

Proof: a call that fails keeps the depth of its slot and was sent something, which happens at one
depth only. As the slots agree on that depth, moving the primary changes it. -/
theorem failures_leave_depths (reached : Reached server begins session world)
    (agreed : ∀ slot ∈ session.slots, slot.depth = session.primary.depth)
    (moving : control ≠ .rollback)
    (failed : control.onSession server (session, world) = (.error failure, after, later)) :
    Halts server control session world after := by
  obtain ⟨primary, usable⟩ := reached.usable
  have standing := usable.standing
  have sends := failed_sends standing agreed moving failed
  have unmoved : (control.onSlot server (session.primary, world)).1 ≠ .ok () → after = session := by
    intro refused
    rcases failed_control standing moving failed with ⟨-, same⟩ | ⟨ended, -⟩
    · exact same
    · exact absurd ended refused
  have moved : (control.onSlot server (session.primary, world)).1 = .ok () →
      session.master?.isSome ∧ after = { session with
        primary := { session.primary with depth := control.depth session.primary.depth } } := by
    intro ended
    rcases failed_control standing moving failed with ⟨refused, -⟩ | ⟨-, slot, _, opened, -, same⟩
    · cases ended.symm.trans refused
    · exact ⟨by rw [opened]; rfl, same⟩
  refine ⟨fun slot member => ?_, unmoved, moved, ⟨fun same ended => ?_, fun refused => ?_⟩,
    fun other last final retried => ?_⟩
  · rw [agreed slot member]
    exact sends
  · rw [(moved ended).2] at same
    exact Control.depth_ne moving sends (List.cons_eq_cons.mp same).1
  · rw [unmoved refused]
  · obtain ⟨isOn, reaches⟩ := failed_connections standing moving failed
    obtain ⟨_, _, _, _, ran, -, known⟩ := onSession_depths isOn reaches moving server other rfl
    cases retried.symm.trans ran
    exact known rfl

/-- Where the master does not begin, the depths no longer agree. -/
theorem halfBegun_lags : ∃ begins session world failure after later,
    Reached lostMaster begins session world ∧
      (∀ slot ∈ session.slots, slot.depth = session.primary.depth) ∧
      Control.begin.onSession lostMaster (session, world) = (.error failure, after, later) ∧
      Halts lostMaster .begin session world after ∧
      session.depths = [0, 0] ∧ after.depths = [1, 0] := by
  have connected : (Session.connect lostMaster twoServers : Acting Unit Unit Session)
      ((), { memory := () }) =
        (.ok (connectedOn twoServers Family.mysql.dialect 0), (), begunWorld) := rfl
  have reached := (Reached.opened twoServers connected).acted .useMaster rfl
  have agreed : ∀ slot ∈ (Operation.act lostMaster .useMaster
      (connectedOn twoServers Family.mysql.dialect 0, begunWorld)).2.1.slots, slot.depth = 0 := by
    intro slot member
    rcases List.mem_cons.mp member with rfl | member
    · rfl
    · rw [List.mem_singleton.mp member]
      rfl
  exact ⟨_, _, _, _, _, _, reached, agreed, rfl,
    failures_leave_depths reached agreed (by decide) rfl, rfl, rfl⟩

end Session

end PortableSql
