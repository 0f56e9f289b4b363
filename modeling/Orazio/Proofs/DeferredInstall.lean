import Orazio.Proofs.DeferredSoundness

/-!
# Installing a deferred packet

`DeferredPacketHandler_installPacket` enters the record of its type before the packet handler below it may
refuse the type.
-/

namespace Orazio.Proofs

variable {α : Type} {h : DeferredPacketHandler α} {i : Install α}

lemma installCall_outOfType (htype : PACKET_TYPE_MAX ≤ i.type.toNat) :
    installCall h i = .ok (.packetInstallError, h) :=
  dif_neg (Nat.not_lt.mpr htype)

lemma installCall_beyond (ht : i.type.toNat < PACKET_TYPE_MAX)
    (hbeyond : PACKETS_PER_TYPE_MAX < i.numBuffers) : installCall h i = .error .outOfBounds := by
  have hlarge : PACKETS_PER_TYPE_MAX < 0 + (i.numBuffers.toNat : Int) := by omega
  rw [installCall, DeferredPacketHandler.installPacket, dif_pos ht,
    fillBuffers_beyond _ _ _ _ _ (by decide) hlarge]

lemma installPacket_taken {ρ σ : Type} {ops : ρ → PacketOperations σ} {h : PacketHandler ρ} {p q : ρ}
    {t : Fin PACKET_TYPE_MAX} (htype : (ops p).type.toNat = t) (htaken : h.operations t = some q) :
    h.installPacket ops p = (.packetInstallError, h) := by
  have hlt : (ops p).type.toNat < PACKET_TYPE_MAX := by
    rw [htype]
    exact t.isLt
  have ht : (⟨(ops p).type.toNat, hlt⟩ : Fin PACKET_TYPE_MAX) = t := Fin.ext htype
  rw [PacketHandler.installPacket, dif_pos hlt, ht, htaken]

lemma installCall_taken {t p : Fin PACKET_TYPE_MAX} (ht : i.type.toNat = t)
    (hroom : i.numBuffers ≤ PACKETS_PER_TYPE_MAX) (htaken : h.baseHandler.operations t = some p) :
    installCall h i = .ok (.packetInstallError, enterRecord h t i) := by
  rw [installCall_eq ht hroom, installPacket_taken (enterRecord_type ht) htaken]
  rfl

lemma enterRecord_eq_self {t : Fin PACKET_TYPE_MAX} :
    enterRecord h t i = h ↔ h.packetInfos t = i.record := by
  constructor
  · intro heq
    rw [← enterRecord_self t, heq]
  · intro heq
    have hinfos : Function.update h.packetInfos t i.record = h.packetInfos := by
      rw [← heq, Function.update_eq_self]
    unfold enterRecord
    rw [hinfos]

/-- The call returns, and leaves the whole handler as it was unless it succeeds. -/
def FailsCleanly (h : DeferredPacketHandler α) (i : Install α) : Prop :=
  ∃ status h', installCall h i = .ok (status, h') ∧ (status ≠ .success → h' = h)

/-- A failed call leaves the handler as it was exactly if the type is out of bounds, or the buffers fit and
the type is free or its record is already the one that the call enters. -/
theorem fails_cleanly_iff (h : DeferredPacketHandler α) (i : Install α) :
    FailsCleanly h i ↔ ∀ t : Fin PACKET_TYPE_MAX, i.type.toNat = t →
      i.numBuffers ≤ PACKETS_PER_TYPE_MAX ∧
        (h.baseHandler.operations t = none ∨ h.packetInfos t = i.record) := by
  constructor
  · rintro ⟨status, h', hcall, hkeeps⟩ t ht
    by_cases hroom : i.numBuffers ≤ PACKETS_PER_TYPE_MAX
    · refine ⟨hroom, ?_⟩
      cases hop : h.baseHandler.operations t with
      | none => exact .inl rfl
      | some p =>
        rw [installCall_taken ht hroom hop] at hcall
        cases hcall
        exact .inr (enterRecord_eq_self.mp (hkeeps (by decide)))
    · rw [installCall_beyond (ht ▸ t.isLt) (Int.not_le.mp hroom)] at hcall
      cases hcall
  · intro hcond
    by_cases htype : i.type.toNat < PACKET_TYPE_MAX
    · obtain ⟨hroom, hkeep⟩ := hcond ⟨i.type.toNat, htype⟩ rfl
      cases hop : h.baseHandler.operations ⟨i.type.toNat, htype⟩ with
      | none => exact ⟨_, _, installCall_free rfl hroom hop, fun hne => absurd rfl hne⟩
      | some p =>
        rw [hop] at hkeep
        refine ⟨_, _, installCall_taken rfl hroom hop, fun _ => ?_⟩
        exact enterRecord_eq_self.mpr (hkeep.resolve_left (Option.some_ne_none p))
    · exact ⟨_, _, installCall_outOfType (Nat.not_lt.mp htype), fun _ => rfl⟩

/-- A packet of type 1 is pending for an action when the type is installed once more, without an action. -/
def duplicateInstall : Install Unit := ⟨1, 6, 0, 1, none⟩

def pendingRun : Except Fault (List (DeferredEvent Unit) × DeferredState Unit Unit) :=
  match installDeferred staticDeferred.initializeDeferred [⟨1, 6, 0, 1, some ()⟩] with
  | .error e => .error e
  | .ok h => StepMachine.run (deferredStep fun _ _ x => .ok x) ⟨h, fun _ => 0, ()⟩
    ((frame [1, 6, 0, 0, 7, 7]).map .rxByte)

/-- The duplicate is refused, but the packet that is pending then finds no action. -/
theorem failed_install_drops_action :
    ∃ events s, pendingRun = .ok (events, s) ∧ ¬FailsCleanly s.handler duplicateInstall ∧
      ∃ h', installCall s.handler duplicateInstall = .ok (.packetInstallError, h') ∧
        (s.handler.packetInfos 1).deferredAction = some () ∧ (h'.packetInfos 1).deferredAction = none := by
  have hrun : ∃ r, pendingRun = .ok r ∧ r.2.handler.baseHandler.operations 1 = some 1 ∧
      (r.2.handler.packetInfos 1).deferredAction = some () := by
    decide +kernel
  obtain ⟨⟨events, s⟩, hrun, hop, haction⟩ := hrun
  have hcall := installCall_taken (h := s.handler) (i := duplicateInstall) (t := 1) rfl (by decide) hop
  have hlost : ((enterRecord s.handler 1 duplicateInstall).packetInfos 1).deferredAction = none := by
    rw [enterRecord_self]
    rfl
  refine ⟨events, s, hrun, ?_, _, hcall, haction, hlost⟩
  rintro ⟨status, h', hcall', hkeeps⟩
  rw [hcall] at hcall'
  cases hcall'
  rw [hkeeps (by decide), haction] at hlost
  cases hlost

end Orazio.Proofs
