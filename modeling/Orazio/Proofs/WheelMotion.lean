import Orazio.Lib.WrappingCounter
import Orazio.Proofs.DriveCalls

/-!
# The motion of the wheels

The joints take the difference of the encoder at every tick of the timer, the drive at every update. Both
see the same motion, however often the counter wraps in between.
-/

namespace Orazio.Proofs

open CFloat WrappingCounter

/-! ### The platform -/

/-- The joints and the drive, which read the same encoders at different rates. -/
structure Platform (F : Type) where
  controllers : Fin NUM_MOTORS → JointController
  joints : Fin NUM_MOTORS → JointInfo
  drive : DifferentialDriveController F
  status : DifferentialDriveStatusPacket F

/-- What happens to the platform; at a tick the encoders show the positions of the wheels. -/
inductive PlatformEvent (F : Type) where
  | tick (params : Fin NUM_MOTORS → JointParams) (control : Fin NUM_MOTORS → JointControl)
      (positions : Fin NUM_MOTORS → ℤ)
  | update (params : DifferentialDriveParamPacket F) (control : DifferentialDriveControlPacket F)
  | reset (x y theta : F)

variable {F : Type} [CFloat F]

/-- One event; a tick leaves the speeds of the joints. -/
def platformStep (s : Platform F) :
    PlatformEvent F → Except Fault (Option (Fin NUM_MOTORS → Int16) × Platform F)
  | .tick params control positions =>
    let handled i := (s.controllers i).handle (params i) (control i) (s.joints i) (UInt16.ofInt (positions i))
    .ok (some fun i => (handled i).2.encoderSpeed,
      { s with controllers := fun i => (handled i).1, joints := fun i => (handled i).2 })
  | .update params control =>
    match s.drive.update params control s.joints s.status with
    | .error e => .error e
    | .ok (drive, status) => .ok (none, { s with drive, status })
  | .reset x y theta =>
    match s.drive.reset s.status s.joints x y theta with
    | .error e => .error e
    | .ok (drive, status) => .ok (none, { s with drive, status })

/-- The sum of the speeds of a joint since the last update or reset. -/
def speedSum (i : Fin NUM_MOTORS) (os : List (Option (Fin NUM_MOTORS → Int16))) : ℤ :=
  os.foldl (fun sum o => match o with
    | some speeds => sum + (speeds i).toInt
    | none => 0) 0

/-- The motion of a joint since the last update or reset, from the position `p` on. -/
def motion (i : Fin NUM_MOTORS) (p : ℤ) (events : List (PlatformEvent F)) : Track 65536 :=
  events.foldl (fun t event => match event with
    | .tick _ _ positions => t.move (positions i)
    | _ => .fresh 65536 t.position) (.fresh 65536 p)

/-- The update adds the motions of the two wheels to the odometry. -/
def Integrates (s : Platform F) (params : DifferentialDriveParamPacket F)
    (control : DifferentialDriveControlPacket F) (leftTicks rightTicks : Int16) : Prop :=
  ∃ drive, s.drive.update params control s.joints s.status =
    let odometry := drive.updateOdometry leftTicks rightTicks s.status
    .ok (drive, drive.updateVelocity params control odometry.1 odometry.2.1 odometry.2.2)

/-- Two sums of differences see the same motion. -/
structure SameMotion (ticks speeds : ℤ) (t : Track 65536) : Prop where
  modEq : ticks ≡ speeds [ZMOD 65536]
  eq : FitsInt16 t.displacement → (∀ x ∈ t.moves, FitsInt16 x) →
    ticks = t.displacement ∧ speeds = t.displacement

/-! ### One event -/

/-- Whatever the mode, a call leaves the encoder value and its change. -/
lemma handle_encoder (j : JointController) (params : JointParams) (control : JointControl)
    (status : JointInfo) (enc : UInt16) :
    (j.handle params control status enc).2.encoderPosition = enc ∧
      (j.handle params control status enc).2.encoderSpeed = (enc - status.encoderPosition).toInt16 := by
  unfold JointController.handle
  split
  · exact ⟨rfl, rfl⟩
  · split
    · exact ⟨rfl, rfl⟩
    · split <;> exact ⟨rfl, rfl⟩

lemma ofInt_eq_add (p q : ℤ) : UInt16.ofInt q = UInt16.ofInt p + UInt16.ofInt (q - p) := by
  rw [← UInt16.ofInt_add, add_sub_cancel]

lemma toInt_sub_ofInt (p q : ℤ) : (UInt16.ofInt q - UInt16.ofInt p).toInt16.toInt = (q - p).bmod 65536 := by
  rw [ofInt_eq_add p q, UInt16.add_comm, UInt16.add_sub_cancel]
  exact toInt_toInt16_ofInt (q - p)

variable {d : DriveSetup F} {left right : Fin NUM_MOTORS}

/-- The encoders show the positions of the wheels, the drive has kept the start of their motions, and the
speeds add up to what was seen of them. -/
structure Follows (d : DriveSetup F) (left right : Fin NUM_MOTORS) (p : Fin NUM_MOTORS → ℤ)
    (events : List (PlatformEvent F)) (os : List (Option (Fin NUM_MOTORS → Int16))) (s : Platform F) :
    Prop where
  drive : s.drive = d.controller (UInt16.ofInt (motion left (p left) events).start).toInt16
    (UInt16.ofInt (motion right (p right) events).start).toInt16
  position : ∀ i, (s.joints i).encoderPosition = UInt16.ofInt (motion i (p i) events).position
  speeds : ∀ i, speedSum i os = (motion i (p i) events).seen

omit [CFloat F] in
lemma motion_concat (i : Fin NUM_MOTORS) (p : ℤ) (events : List (PlatformEvent F))
    (event : PlatformEvent F) :
    motion i p (events ++ [event]) = match event with
      | .tick _ _ positions => (motion i p events).move (positions i)
      | _ => .fresh 65536 (motion i p events).position := by
  rw [motion, List.foldl_append]
  rfl

lemma speedSum_concat (i : Fin NUM_MOTORS) (os : List (Option (Fin NUM_MOTORS → Int16)))
    (o : Option (Fin NUM_MOTORS → Int16)) :
    speedSum i (os ++ [o]) = match o with
      | some speeds => speedSum i os + (speeds i).toInt
      | none => 0 := by
  rw [speedSum, List.foldl_append]
  rfl

/-- An update or a reset reads the encoders and starts all motions anew. -/
lemma Follows.restart {p : Fin NUM_MOTORS → ℤ} {events : List (PlatformEvent F)}
    {os : List (Option (Fin NUM_MOTORS → Int16))} {s s' : Platform F} {event : PlatformEvent F}
    (h : Follows d left right p events os s) (hdrive : s'.drive = d.controllerAt left right s.joints)
    (hjoints : s'.joints = s.joints)
    (hmotion : ∀ i, motion i (p i) (events ++ [event]) = .fresh 65536 (motion i (p i) events).position) :
    Follows d left right p (events ++ [event]) (os ++ [none]) s' := by
  constructor
  · rw [hdrive, DriveSetup.controllerAt, h.position left, h.position right, hmotion, hmotion]
    rfl
  · intro i
    rw [hjoints, h.position i, hmotion]
    rfl
  · intro i
    rw [hmotion, speedSum_concat]
    rfl

lemma Follows.next (hwheels : d.Wheels left right) {p : Fin NUM_MOTORS → ℤ}
    {events : List (PlatformEvent F)} {os : List (Option (Fin NUM_MOTORS → Int16))} {s s' : Platform F}
    {event : PlatformEvent F} {o : Option (Fin NUM_MOTORS → Int16)} (h : Follows d left right p events os s)
    (hstep : platformStep s event = .ok (o, s')) :
    Follows d left right p (events ++ [event]) (os ++ [o]) s' := by
  cases event with
  | tick params control positions =>
    cases hstep
    constructor
    · rw [motion_concat, motion_concat]
      exact h.drive
    · intro i
      rw [motion_concat]
      exact (handle_encoder _ _ _ _ _).1
    · intro i
      rw [motion_concat, speedSum_concat]
      simp only [(handle_encoder _ _ _ _ _).2, h.position i, toInt_sub_ofInt, h.speeds i]
      rfl
  | update params control =>
    rw [platformStep, h.drive, update_eq hwheels] at hstep
    cases hstep
    exact h.restart rfl rfl fun i => motion_concat i _ events _
  | reset x y theta =>
    rw [platformStep, h.drive, reset_eq hwheels] at hstep
    cases hstep
    exact h.restart rfl rfl fun i => motion_concat i _ events _

/-! ### Runs -/

lemma follows_of_run (hwheels : d.Wheels left right) {p : Fin NUM_MOTORS → ℤ} {s₁ s : Platform F}
    (hstart : Follows d left right p [] [] s₁) {events : List (PlatformEvent F)}
    {os : List (Option (Fin NUM_MOTORS → Int16))}
    (hrun : StepMachine.run platformStep s₁ events = .ok (os, s)) :
    Follows d left right p events os s :=
  StepMachine.run_history (Follows d left right p) hstart
    (fun _ _ _ _ _ _ h hstep => h.next hwheels hstep) hrun

/-- The difference of the encoder values at the two ends of a motion. -/
lemma sameMotion_of_follows {p : Fin NUM_MOTORS → ℤ} {events : List (PlatformEvent F)}
    {os : List (Option (Fin NUM_MOTORS → Int16))} {s : Platform F} (h : Follows d left right p events os s)
    (i : Fin NUM_MOTORS) :
    SameMotion
      (tickDifference (UInt16.ofInt (motion i (p i) events).start).toInt16 (s.joints i)).toInt
      (speedSum i os) (motion i (p i) events) := by
  have hticks := toInt_tickDifference ((h.position i).trans (ofInt_eq_add (motion i (p i) events).start _))
  rw [hticks, h.speeds i]
  constructor
  · exact Track.bmod_displacement_modEq _
  · intro hfits hmoves
    refine ⟨bmod_of_fits hfits, ?_⟩
    exact (motion i (p i) events).seen_eq fun x hx => bmod_of_fits (hmoves x hx)

/-- At every update the drive integrates the motions that the joints have measured since the last update or
reset, modulo `2 ^ 16`, and exactly those if no motion is too large for the difference of two encoder
values. -/
theorem update_sees_speeds (d : DriveSetup F) (left right : Fin NUM_MOTORS) (hwheels : d.Wheels left right)
    (ctr₀ : DifferentialDriveController F) (s₁ : Platform F)
    (status₀ : DifferentialDriveStatusPacket F)
    (hinit : ctr₀.init d.params status₀ s₁.joints d.left d.right d.dt d.jointsDt =
      .ok (s₁.drive, s₁.status))
    (p : Fin NUM_MOTORS → ℤ) (hp : ∀ i, (s₁.joints i).encoderPosition = UInt16.ofInt (p i))
    (events : List (PlatformEvent F)) (os : List (Option (Fin NUM_MOTORS → Int16))) (s : Platform F)
    (hrun : StepMachine.run platformStep s₁ events = .ok (os, s))
    (params : DifferentialDriveParamPacket F) (control : DifferentialDriveControlPacket F) :
    ∃ leftTicks rightTicks : Int16, Integrates s params control leftTicks rightTicks ∧
      SameMotion leftTicks.toInt (speedSum left os) (motion left (p left) events) ∧
      SameMotion rightTicks.toInt (speedSum right os) (motion right (p right) events) := by
  have hstart : Follows d left right p [] [] s₁ := by
    rw [init_eq hwheels] at hinit
    constructor
    · have hdrive := congrArg Prod.fst (Except.ok.inj hinit)
      apply hdrive.symm.trans
      rw [DriveSetup.controllerAt, hp, hp]
      rfl
    · exact hp
    · intro i
      rfl
  have h := follows_of_run hwheels hstart hrun
  refine ⟨_, _, ⟨d.controllerAt left right s.joints, ?_⟩, sameMotion_of_follows h left,
    sameMotion_of_follows h right⟩
  rw [h.drive, update_eq hwheels]

/-! ### The initial parameters -/

noncomputable def initialPlatform : Platform (Exact ℝ) :=
  ⟨fun _ => .zero, initJointStatus.joints, initialState.1, initialState.2⟩

noncomputable def tickAt (p : ℤ) : PlatformEvent (Exact ℝ) :=
  .tick initJointParams.joints initJointControl.joints fun _ => p

noncomputable def wrappingEvents : List (PlatformEvent (Exact ℝ)) :=
  [tickAt 30000, tickAt 60000, .update initDriveParams initDriveControl, tickAt 80000, tickAt 90000]

/-- The counters wrap between the update and the tick after it. -/
theorem update_sees_speeds_wrapped :
    ∃ os s, StepMachine.run platformStep initialPlatform wrappingEvents = .ok (os, s) ∧
      ∃ leftTicks rightTicks : Int16, Integrates s initDriveParams initDriveControl leftTicks rightTicks ∧
        leftTicks.toInt = 30000 ∧ speedSum 1 os = 30000 := by
  obtain ⟨os, s, hrun⟩ : ∃ os s,
      StepMachine.run platformStep initialPlatform wrappingEvents = .ok (os, s) := ⟨_, _, rfl⟩
  obtain ⟨leftTicks, rightTicks, hintegrates, hleft, -⟩ := update_sees_speeds initialSetup 1 0 ⟨rfl, rfl⟩
    .zero initialPlatform initDriveStatus init_initialSetup (fun _ => 0) (fun _ => rfl) wrappingEvents os s
    hrun initDriveParams initDriveControl
  have hdisplacement : (motion 1 0 wrappingEvents).displacement = 30000 := rfl
  have hmoves : (motion 1 0 wrappingEvents).moves = [10000, 20000] := rfl
  have heq := hleft.eq (by rw [hdisplacement]; exact ⟨by decide, by decide⟩) (by
    rw [hmoves]
    unfold FitsInt16
    decide)
  exact ⟨os, s, hrun, leftTicks, rightTicks, hintegrates, heq.1.trans hdisplacement,
    heq.2.trans hdisplacement⟩

end Orazio.Proofs
