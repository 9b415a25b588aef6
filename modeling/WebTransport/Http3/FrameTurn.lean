import WebTransport.Http3.Driver

/-!
# What one turn of the frame loop can do

What the delivery of a piece does to the driver, and what settling a stream does to the table of
half-read frames and to the marked streams.
-/

namespace WebTransport

/-! ## Frame headers -/

/-- Bytes after a complete integer do not change how it is read. -/
lemma quicVarintDecode_append {c rest : List UInt8} {v : ℕ}
    (h : quicVarintDecode c = .ok (v, rest)) (more : List UInt8) :
    quicVarintDecode (c ++ more) = .ok (v, rest ++ more) := by
  cases c with
  | nil => cases h
  | cons first c =>
    simp only [quicVarintDecode, quicVarintDecodeSized, List.cons_append] at h ⊢
    generalize 1 <<< (first.toNat >>> 6) = size at h ⊢
    split at h
    · cases h
    case isFalse hlen =>
      have hle : size - 1 ≤ c.length := by omega
      rw [if_neg (by rw [List.length_append]; omega)]
      cases h
      simp [Except.map, List.take_append_of_le_length hle, List.drop_append_of_le_length hle]

/-- Eight bytes always hold a whole integer, and it takes at most eight of them. -/
lemma quicVarintDecode_of_length {c : List UInt8} (h : 8 ≤ c.length) :
    ∃ v rest, quicVarintDecode c = .ok (v, rest) ∧ c.length ≤ rest.length + 8 := by
  cases c with
  | nil => simp at h
  | cons first c =>
    have hsize : 1 <<< (first.toNat >>> 6) ≤ 8 := by
      have hfirst : first.toNat >>> 6 < 4 := by
        rw [Nat.shiftRight_eq_div_pow]
        have := first.toNat_lt
        omega
      interval_cases first.toNat >>> 6 <;> decide
    simp only [quicVarintDecode, quicVarintDecodeSized]
    generalize 1 <<< (first.toNat >>> 6) = size at hsize
    simp only [List.length_cons] at h ⊢
    rw [if_neg (by omega)]
    refine ⟨_, _, rfl, ?_⟩
    rw [List.length_drop]
    omega

/-! ## Turns -/

@[simp] lemma setEndpoint_self (d : Driver) : d.setEndpoint d.endpoint = d := rfl

section Turns

variable (sink : Sink) (a : ℕ) (c : Bool) (s : Feed)

/-- A piece is delivered without touching any entry of the frame table, nor the endpoint's
streams. -/
lemma deliverFramePayload_driver (type : ℕ) (payload : List UInt8) (last : Bool) :
    ∃ e log reply, deliverFramePayload sink a c s type payload last =
      (⟨s.driver.setEndpoint e, log⟩, reply) ∧ e.streams = s.driver.endpoint.streams := by
  have hreport : ∀ (s : Feed) callback event, ∃ log reply,
      s.report callback event = (⟨s.driver, log⟩, reply) := by
    intro s callback event
    cases callback with
    | none => exact ⟨_, _, rfl⟩
    | some answer => exact ⟨_, _, rfl⟩
  unfold deliverFramePayload
  extract_lets control s₁
  obtain ⟨log₁, reply₁, h₁⟩ :=
    hreport s₁ sink.onStreamData (.streamData a payload false)
  obtain ⟨log₂, reply₂, h₂⟩ :=
    hreport s₁ sink.onFramePayload (.framePayload a type payload last)
  have hstreams : control.1.streams = s.driver.endpoint.streams := by
    cases c <;> rfl
  rw [h₁, h₂]
  refine ⟨control.1, ?_⟩
  split_ifs
  · exact ⟨_, _, rfl, hstreams⟩
  · exact ⟨_, _, rfl, hstreams⟩
  · exact ⟨_, _, rfl, hstreams⟩
  · exact ⟨_, _, rfl, hstreams⟩
  · exact ⟨_, _, rfl, hstreams⟩

end Turns

/-- A stream is marked as a CONNECT stream whose HEADERS frame is still to come. -/
def capsulePending (d : Driver) (streamId : ℕ) : Bool :=
  match findCapsuleStream d streamId with
  | some m => m.headersPending
  | none => false

section Find

variable {d : Driver} {streamId i : ℕ}

lemma findFrameState_some (h : findFrameState d streamId = some i) :
    i < d.frameCount ∧ (d.frames i).streamId = streamId := by
  have hmem := List.mem_of_find?_eq_some h
  have hid := List.find?_some h
  exact ⟨List.mem_range.mp hmem, by simpa using hid⟩

end Find

/-! ## Settling a stream -/

section Settle

variable {a : ℕ} {d : Driver}

/-- Settling a stream that waits for nothing does nothing. -/
lemma settleCapsuleStream_of_not_pending (h : capsulePending d a = false) :
    settleCapsuleStream d a = d := by
  unfold capsulePending at h
  unfold settleCapsuleStream
  cases hm : findCapsuleStream d a with
  | none => rfl
  | some m =>
    rw [hm] at h
    simp only at h
    simp [h]

lemma settleCapsuleStream_of_pending (h : capsulePending d a = true) :
    settleCapsuleStream d a =
      http3DriverForgetFrame
        { d with capsuleStreams := clearPending a d.capsuleStreams } a := by
  unfold capsulePending at h
  unfold settleCapsuleStream
  cases hm : findCapsuleStream d a with
  | none => simp [hm] at h
  | some m =>
    rw [hm] at h
    simp only at h
    simp [h]

end Settle

lemma http3EndpointStreamKind_congr {e e' : Endpoint} (h : e'.streams = e.streams) (b : ℕ) :
    http3EndpointStreamKind e' b = http3EndpointStreamKind e b := by
  unfold http3EndpointStreamKind
  rw [h]

/-- An event that reports a piece of a frame. -/
def SinkEvent.IsFramePayload : SinkEvent → Prop
  | .framePayload _ _ _ _ => True
  | _ => False

end WebTransport
