import WebTransport.Swift.ManagerFrames

/-!
# What a GOAWAY promises

A GOAWAY says that requests at or above an identifier are not served. A manager keeps to what it
received and to what it sent where no GOAWAY is above one before it, and where the peer keeps to
what was sent. Nothing checks either: an identifier is noted as it comes, and what was sent is not
looked at when a request arrives.
-/

namespace WebTransport

open Throwing

namespace HTTP3ConnectionState

/-- The identifiers of the GOAWAY frames among some frames. -/
def goawayIDs (frames : List HTTP3Frame) : List ℕ :=
  frames.filterMap fun frame =>
    if frame.type = HTTP3FrameType.goaway then frame.singleVarIntPayload.toOption else none

lemma singleVarIntPayload_ok {frame : HTTP3Frame} {id : ℕ}
    (h : (ofCodec frame.singleVarIntPayload : Except ManagerError ℕ) = .ok id) :
    frame.singleVarIntPayload = .ok id := by
  cases hpayload : frame.singleVarIntPayload with
  | error e =>
    rw [hpayload] at h
    cases h
  | ok value =>
    rw [hpayload] at h
    exact congrArg _ (Except.ok.inj h)

/-- The last GOAWAY counts. -/
lemma scanControlFrames_ok {frames : List HTTP3Frame} {received received' : Option ℕ}
    (h : scanControlFrames frames received = .ok received') :
    received' = (received.toList ++ goawayIDs frames).getLast? := by
  induction frames generalizing received with
  | nil =>
    obtain rfl := Except.ok.inj h
    cases received <;> rfl
  | cons frame rest ih =>
    unfold scanControlFrames at h
    by_cases hgoaway : frame.type = HTTP3FrameType.goaway
    · rw [if_neg (by rw [hgoaway]; decide), if_pos hgoaway] at h
      obtain ⟨id, hid, h⟩ := bind_ok h
      have hids : goawayIDs (frame :: rest) = id :: goawayIDs rest := by
        unfold goawayIDs
        rw [List.filterMap_cons, if_pos hgoaway, singleVarIntPayload_ok hid]
        rfl
      rw [ih h, hids, List.getLast?_append_cons]
      rfl
    · have hids : goawayIDs (frame :: rest) = goawayIDs rest := by
        unfold goawayIDs
        rw [List.filterMap_cons, if_neg hgoaway]
      split_ifs at h
      rw [ih h, hids]

end HTTP3ConnectionState

open HTTP3ConnectionState

/-- The last of numbers that do not increase is the least. -/
lemma getLast_le {l : List ℕ} {last : ℕ} (h : l.Pairwise (· ≥ ·)) (hlast : l.getLast? = some last)
    {id : ℕ} (hid : id ∈ l) : last ≤ id := by
  obtain ⟨before, rfl⟩ := List.getLast?_eq_some_iff.mp hlast
  rcases List.mem_append.mp hid with hid | hid
  · exact (List.pairwise_append.mp h).2.2 id hid last List.mem_cons_self
  · exact (List.mem_singleton.mp hid).ge

/-! ## The condition -/

/-- A call keeps to what was promised: a GOAWAY that is sent or received is not above those before
it, and a request that passes the checks is below the identifier that was sent. -/
def ManagerCall.KeepsWithin (env : ManagerEnv) (m : WebTransportSessionManager) :
    ManagerCall → Prop
  | makeGoawayFrame streamID => (m.http3.sentGoawayID.toList ++ [streamID]).Pairwise (· ≥ ·)
  | receivePeerControlStream bytes => ∀ frames http3,
    m.http3.receivePeerControlStream bytes env.settingsValidation = .ok (frames, http3) →
      (m.http3.receivedGoawayID.toList ++ goawayIDs frames.tail).Pairwise (· ≥ ·)
  | receiveControlFrame frame =>
    (m.http3.receivedGoawayID.toList ++ goawayIDs [frame]).Pairwise (· ≥ ·)
  | receiveClientSessionRequest streamID frame _ => ∀ sent sessionID,
    m.http3.sentGoawayID = some sent →
      m.validateClientSessionRequest env streamID frame = .ok sessionID → streamID < sent
  | _ => True

/-- A call takes a GOAWAY of the peer with an identifier. -/
def ManagerCall.HearsGoaway (env : ManagerEnv) (m : WebTransportSessionManager) (id : ℕ) :
    ManagerCall → Prop
  | receivePeerControlStream bytes => ∃ frames http3,
    m.http3.receivePeerControlStream bytes env.settingsValidation = .ok (frames, http3) ∧
      id ∈ goawayIDs frames.tail
  | receiveControlFrame frame => id ∈ goawayIDs [frame]
  | _ => False

namespace WebTransportSessionManager

variable {env : ManagerEnv} {m m' m'' : WebTransportSessionManager} {streamID : ℕ}

/-! ## What the calls do -/

/-- A GOAWAY is noted, whether its frame can be made or not. -/
lemma makeGoawayFrame_after :
    after (makeGoawayFrame streamID) m = { m with http3 := m.http3.noteGoaway streamID } :=
  Ends.after (x := makeGoawayFrame streamID) (s := m)
    (R := fun m' => m' = { m with http3 := m.http3.noteGoaway streamID })
    (Ends.bind (P := fun _ m' => m' = { m with http3 := m.http3.noteGoaway streamID })
      (Ends.modify rfl) fun _ _ heq => .demand (fun _ _ => heq) fun _ _ => heq)

/-- A frame of the control stream is taken or refused. -/
lemma receiveControlFrame_ends (frame : HTTP3Frame) :
    Ends (receiveControlFrame frame) m
      (fun _ m' => m' = m ∧ ∀ http3, m.http3.receiveControlFrame frame ≠ .ok http3)
      fun _ m' => m.http3.receiveControlFrame frame = .ok m'.http3 := by
  refine Ends.bind (P := fun http3 m' => m.http3.receiveControlFrame frame = .ok http3 ∧ m' = m)
    (.consult (fun _ hrefused => ⟨rfl, by simp [hrefused]⟩) fun http3 hreceive => ⟨hreceive, rfl⟩) ?_
  rintro http3 _ ⟨hreceive, rfl⟩
  refine Ends.bind (P := fun _ (m' : WebTransportSessionManager) => m'.http3 = http3)
    (Ends.modify rfl) fun _ m' heq => ?_
  rw [← heq] at hreceive
  split_ifs
  · exact Ends.modify hreceive
  · exact Ends.pure hreceive

/-- The control stream of the peer is taken or refused. -/
lemma receivePeerControlStream_ends (bytes : List UInt8) :
    Ends (receivePeerControlStream env bytes) m
      (fun _ m' => m' = m ∧ ∀ r,
        m.http3.receivePeerControlStream bytes env.settingsValidation ≠ .ok r)
      fun frames m' =>
        m.http3.receivePeerControlStream bytes env.settingsValidation =
          .ok (frames, m'.http3) := by
  refine Ends.bind (P := fun r m' =>
    m.http3.receivePeerControlStream bytes env.settingsValidation = .ok r ∧ m' = m)
    (.consult (fun _ hrefused => ⟨rfl, by simp [hrefused]⟩) fun r hreceive => ⟨hreceive, rfl⟩) ?_
  rintro ⟨frames, http3⟩ _ ⟨hreceive, rfl⟩
  exact Ends.bind (P := fun _ (m' : WebTransportSessionManager) => m'.http3 = http3)
    (Ends.modify rfl) fun _ m' heq => Ends.pure (by rw [hreceive, heq])

/-! ## Identifiers do not increase -/

/-- What was sent and what was received is not taken back. -/
structure Narrows (m m' : WebTransportSessionManager) : Prop where
  sent : ∀ id, m.http3.sentGoawayID = some id → ∃ id' ≤ id, m'.http3.sentGoawayID = some id'
  received : ∀ id, m.http3.receivedGoawayID = some id →
    ∃ id' ≤ id, m'.http3.receivedGoawayID = some id'

namespace Narrows

lemma refl (m : WebTransportSessionManager) : m.Narrows m where
  sent id h := ⟨id, le_rfl, h⟩
  received id h := ⟨id, le_rfl, h⟩

lemma trans (h : m.Narrows m') (h' : m'.Narrows m'') : m.Narrows m'' where
  sent id hid := by
    obtain ⟨id', hle, hid'⟩ := h.sent id hid
    obtain ⟨id'', hle', hid''⟩ := h'.sent id' hid'
    exact ⟨id'', hle'.trans hle, hid''⟩
  received id hid := by
    obtain ⟨id', hle, hid'⟩ := h.received id hid
    obtain ⟨id'', hle', hid''⟩ := h'.received id' hid'
    exact ⟨id'', hle'.trans hle, hid''⟩

lemma of_moreStreams (h : m.http3.MoreStreams m'.http3) : m.Narrows m' where
  sent id hid := ⟨id, le_rfl, by rw [h.same]; exact hid⟩
  received id hid := ⟨id, le_rfl, by rw [h.same]; exact hid⟩

end Narrows

/-- The identifier that is received last is at most every other one. -/
lemma receivedGoawayID_le {frames : List HTTP3Frame}
    (hpair : (m.http3.receivedGoawayID.toList ++ goawayIDs frames).Pairwise (· ≥ ·))
    (hlast : m'.http3.receivedGoawayID =
      (m.http3.receivedGoawayID.toList ++ goawayIDs frames).getLast?) {id : ℕ}
    (hid : id ∈ m.http3.receivedGoawayID.toList ++ goawayIDs frames) :
    ∃ id' ≤ id, m'.http3.receivedGoawayID = some id' := by
  cases hsome : (m.http3.receivedGoawayID.toList ++ goawayIDs frames).getLast? with
  | none =>
    rw [List.getLast?_eq_none_iff.mp hsome] at hid
    exact absurd hid List.not_mem_nil
  | some last => exact ⟨last, getLast_le hpair hsome hid, hlast.trans hsome⟩

lemma receiveControlFrame_last {frame : HTTP3Frame} {c c' : HTTP3ConnectionState}
    (h : c.receiveControlFrame frame = .ok c') :
    c'.receivedGoawayID = (c.receivedGoawayID.toList ++ goawayIDs [frame]).getLast? ∧
      c'.sentGoawayID = c.sentGoawayID := by
  unfold HTTP3ConnectionState.receiveControlFrame at h
  split_ifs at h with hsettings hgoaway hrequest
  · obtain ⟨id, hid, h⟩ := bind_ok h
    obtain rfl := Except.ok.inj h
    have hids : goawayIDs [frame] = [id] := by
      unfold goawayIDs
      rw [List.filterMap_cons, if_pos hgoaway, singleVarIntPayload_ok hid]
      rfl
    refine ⟨?_, rfl⟩
    rw [hids, List.getLast?_append_cons]
    rfl
  · obtain rfl := Except.ok.inj h
    have hids : goawayIDs [frame] = [] := by
      unfold goawayIDs
      rw [List.filterMap_cons, if_neg hgoaway]
      rfl
    refine ⟨?_, rfl⟩
    rw [hids, List.append_nil]
    cases c.receivedGoawayID <;> rfl

lemma receiveControlFrame_goaway {frame : HTTP3Frame} {id : ℕ} (h : id ∈ goawayIDs [frame])
    (c : HTTP3ConnectionState) : ∃ c', c.receiveControlFrame frame = .ok c' := by
  unfold goawayIDs at h
  rw [List.filterMap_cons] at h
  unfold HTTP3ConnectionState.receiveControlFrame
  by_cases hgoaway : frame.type = HTTP3FrameType.goaway
  · rw [if_pos hgoaway] at h
    rw [if_neg (by rw [hgoaway]; decide), if_pos hgoaway]
    cases hpayload : frame.singleVarIntPayload with
    | error e =>
      rw [hpayload] at h
      exact absurd h List.not_mem_nil
    | ok value => exact ⟨_, rfl⟩
  · rw [if_neg hgoaway] at h
    exact absurd h List.not_mem_nil

/-- What the peer says on the control stream narrows what was received. -/
lemma hears_narrows {call : ManagerCall} (hhears : call.Hears) (hkeeps : call.KeepsWithin env m) :
    m.Narrows (after (call.perform env) m) ∧ ∀ id, call.HearsGoaway env m id →
      ∃ id' ≤ id, (after (call.perform env) m).http3.receivedGoawayID = some id' := by
  cases call with
  | receivePeerControlStream bytes =>
    refine Ends.after (R := fun m' => m.Narrows m' ∧ ∀ id,
      (ManagerCall.receivePeerControlStream bytes).HearsGoaway env m id →
        ∃ id' ≤ id, m'.http3.receivedGoawayID = some id') ?_
    refine Ends.bind ((receivePeerControlStream_ends bytes).mono ?_ fun _ _ h => h)
      fun frames m' hreceive => Ends.pure ?_
    · rintro _ _ ⟨rfl, hrefused⟩
      refine ⟨.refl _, fun id hheard => ?_⟩
      obtain ⟨frames, http3, hreceive, -⟩ := hheard
      exact absurd hreceive (hrefused _)
    have hpair := hkeeps frames _ hreceive
    obtain ⟨first, rest, settings, goawayID, rfl, hscan, heq⟩ := receivePeerControlStream_ok hreceive
    have hlast : m'.http3.receivedGoawayID =
        (m.http3.receivedGoawayID.toList ++ goawayIDs rest).getLast? := by
      rw [heq]
      exact scanControlFrames_ok hscan
    refine ⟨⟨fun id hid => ⟨id, le_rfl, by rw [heq]; exact hid⟩, fun id hid => ?_⟩, ?_⟩
    · exact receivedGoawayID_le hpair hlast (List.mem_append_left _ (by rw [hid]; simp))
    · rintro id ⟨frames', http3', hreceive', hmem⟩
      rw [hreceive] at hreceive'
      obtain ⟨rfl, -⟩ := Prod.mk.inj (Except.ok.inj hreceive')
      exact receivedGoawayID_le hpair hlast (List.mem_append_right _ hmem)
  | receiveControlFrame frame =>
    refine Ends.after (R := fun m' => m.Narrows m' ∧ ∀ id, id ∈ goawayIDs [frame] →
      ∃ id' ≤ id, m'.http3.receivedGoawayID = some id') ?_
    refine Ends.bind ((receiveControlFrame_ends frame).mono ?_ fun _ _ h => h)
      fun _ m' hreceive => Ends.pure ?_
    · rintro _ _ ⟨rfl, hrefused⟩
      refine ⟨.refl _, fun id hheard => ?_⟩
      obtain ⟨http3, hreceive⟩ := receiveControlFrame_goaway hheard _
      exact absurd hreceive (hrefused _)
    obtain ⟨hlast, hsent⟩ := receiveControlFrame_last hreceive
    refine ⟨⟨fun id hid => ⟨id, le_rfl, hsent.trans hid⟩, fun id hid => ?_⟩, fun id hid => ?_⟩
    · exact receivedGoawayID_le hkeeps hlast (List.mem_append_left _ (by rw [hid]; simp))
    · exact receivedGoawayID_le hkeeps hlast (List.mem_append_right _ hid)
  | _ => exact False.elim hhears

/-- A call that keeps to what was promised narrows. -/
theorem call_narrows {call : ManagerCall} (hkeeps : call.KeepsWithin env m) :
    m.Narrows (after (call.perform env) m) := by
  by_cases hhears : call.Hears
  · exact (hears_narrows hhears hkeeps).1
  by_cases hannounces : call.Announces
  · cases call with
    | makeGoawayFrame streamID =>
      have hafter : after ((ManagerCall.makeGoawayFrame streamID).perform env) m =
          { m with http3 := m.http3.noteGoaway streamID } :=
        (after_bind_pure _ _ m).trans makeGoawayFrame_after
      rw [hafter]
      refine ⟨fun id hid => ⟨streamID, ?_, rfl⟩, fun id hid => ⟨id, le_rfl, hid⟩⟩
      exact (List.pairwise_append.mp hkeeps).2.2 id (by rw [hid]; simp) streamID
        List.mem_cons_self
    | _ => exact False.elim hannounces
  exact (relates (I := fun _ => True) Narrows.refl (fun _ _ _ _ => Narrows.trans)
    (fun _ _ hstep _ => ⟨trivial, .of_moreStreams (step_moreStreams hannounces hhears hstep)⟩)
    (call.perform_within env m).reached trivial).2

/-! ## Requests -/

/-- A request that does not pass the checks changes nothing. -/
lemma receiveClientSessionRequest_refused {frame : HTTP3Frame}
    {policy : WebTransportServerSessionPolicy}
    (hrefused : ∀ sessionID, m.validateClientSessionRequest env streamID frame ≠ .ok sessionID) :
    after ((ManagerCall.receiveClientSessionRequest streamID frame policy).perform env) m = m := by
  refine (after_bind_pure _ _ m).trans (Ends.after (R := fun m' => m' = m) ?_)
  exact Ends.bind (P := fun _ _ => False) (.consult (fun _ _ => rfl) fun id hid => hrefused id hid)
    fun _ _ h => h.elim

/-- A request at or above what was received is refused. -/
lemma makeClientSessionRequest_refused (request : WebTransportSessionRequest) (isZeroRTT : Bool)
    {received : ℕ} (hreceived : m.http3.receivedGoawayID = some received) (hle : received ≤ streamID) :
    ∃ e, makeClientSessionRequest env streamID request isZeroRTT m = .error e m := by
  cases hvalid : m.validateOwnSessionRequest env streamID isZeroRTT with
  | error e =>
    exact ⟨e, consult_bind_error (f := fun m : WebTransportSessionManager =>
      m.validateOwnSessionRequest env streamID isZeroRTT) hvalid _⟩
  | ok id =>
    obtain ⟨-, -, -, hgoaway, -⟩ := validateOwnSessionRequest_ok hvalid
    unfold validateRequestAllowedByGoaway at hgoaway
    rw [hreceived] at hgoaway
    simp only at hgoaway
    rw [if_neg (not_lt.mpr hle)] at hgoaway
    cases hgoaway

end WebTransportSessionManager

open WebTransportSessionManager

/-! ## Runs -/

/-- A call that is refused: it throws, and what was sent and received stays. -/
def ManagerCall.IsRefused (env : ManagerEnv) (m : WebTransportSessionManager)
    (call : ManagerCall) : Prop :=
  returned? (call.perform env) m = none ∧
    (after (call.perform env) m).http3.sentGoawayID = m.http3.sentGoawayID ∧
    (after (call.perform env) m).http3.receivedGoawayID = m.http3.receivedGoawayID

/-- In every run of calls that may be made: after a GOAWAY is sent no request at or above it creates
a session, after one is received none is made, and a GOAWAY with a larger identifier is refused. -/
def GoawayIsKept (env : ManagerEnv) (http3 : HTTP3ConnectionState)
    (allowed : WebTransportSessionManager → ManagerCall → Prop) : Prop :=
  (∀ m m' id frame m₁, Run (ManagerCall.perform env) allowed (start http3) m →
    allowed m (.makeGoawayFrame id) →
    WebTransportSessionManager.makeGoawayFrame id m = .ok frame m₁ →
    Run (ManagerCall.perform env) allowed m₁ m' →
    (∃ id' ≤ id, m'.http3.sentGoawayID = some id') ∧
    (∀ streamID frame policy, id ≤ streamID →
      allowed m' (.receiveClientSessionRequest streamID frame policy) →
      (after ((ManagerCall.receiveClientSessionRequest streamID frame policy).perform env)
        m').sessionsByID = m'.sessionsByID) ∧
    ∀ larger, id < larger → allowed m' (.makeGoawayFrame larger) →
      (ManagerCall.makeGoawayFrame larger).IsRefused env m') ∧
  ∀ m m' id call, Run (ManagerCall.perform env) allowed (start http3) m → allowed m call →
    call.HearsGoaway env m id →
    Run (ManagerCall.perform env) allowed (after (call.perform env) m) m' →
    (∃ id' ≤ id, m'.http3.receivedGoawayID = some id') ∧
    (∀ streamID request isZeroRTT, id ≤ streamID →
      ∃ e, WebTransportSessionManager.makeClientSessionRequest env streamID request isZeroRTT m' =
        .error e m') ∧
    ∀ larger call', id < larger → call'.HearsGoaway env m' larger → allowed m' call' →
      call'.IsRefused env m'

/-- A manager keeps what a GOAWAY promises where every call keeps to it. -/
theorem goaway_isKept (env : ManagerEnv) (http3 : HTTP3ConnectionState) :
    GoawayIsKept env http3 fun m call => call.KeepsWithin env m := by
  have hnarrows : ∀ {m m'}, Run (ManagerCall.perform env) (fun m call => call.KeepsWithin env m) m m' →
      m.Narrows m' := by
    intro m m' hrun
    refine (relates (I := fun _ => True) Narrows.refl (fun _ _ _ _ => Narrows.trans) ?_ hrun
      trivial).2
    rintro m _ ⟨call, hcall, rfl⟩ -
    exact ⟨trivial, call_narrows hcall⟩
  constructor
  · intro m m' id frame m₁ _ hallowed hsent hrun
    have hafter : after (WebTransportSessionManager.makeGoawayFrame id) m = m₁ := by
      unfold after
      rw [hsent]
    have hnoted : m₁.http3.sentGoawayID = some id := by
      rw [← hafter, makeGoawayFrame_after]
      rfl
    obtain ⟨id', hle, hsent'⟩ := (hnarrows hrun).sent id hnoted
    refine ⟨⟨id', hle, hsent'⟩, fun streamID frame policy hstream hkeeps => ?_, ?_⟩
    · rw [receiveClientSessionRequest_refused fun sessionID hvalid => ?_]
      have hlt := hkeeps id' sessionID hsent' hvalid
      exact absurd (hle.trans hstream) (not_le.mpr hlt)
    · intro larger hlarger hkeeps
      have hle' := (List.pairwise_append.mp hkeeps).2.2 id' (by rw [hsent']; simp) larger
        List.mem_cons_self
      exact absurd (hlarger.trans_le (hle'.trans hle)) (lt_irrefl _)
  · intro m m' id call _ hkeeps hheard hrun
    have hhears : call.Hears := by
      cases call with
      | receivePeerControlStream bytes => trivial
      | receiveControlFrame frame => trivial
      | _ => exact False.elim hheard
    obtain ⟨id₁, hle₁, hreceived⟩ := (hears_narrows hhears hkeeps).2 id hheard
    obtain ⟨id', hle', hreceived'⟩ := (hnarrows hrun).received id₁ hreceived
    have hle := hle'.trans hle₁
    refine ⟨⟨id', hle, hreceived'⟩, fun streamID request isZeroRTT hstream =>
      makeClientSessionRequest_refused request isZeroRTT hreceived' (hle.trans hstream), ?_⟩
    intro larger call' hlarger hheard' hkeeps'
    have hle'' : larger ≤ id' := by
      cases call' with
      | receivePeerControlStream bytes =>
        obtain ⟨frames, http3, hreceive, hmem⟩ := hheard'
        exact (List.pairwise_append.mp (hkeeps' frames http3 hreceive)).2.2 id'
          (by rw [hreceived']; simp) larger hmem
      | receiveControlFrame frame =>
        exact (List.pairwise_append.mp hkeeps').2.2 id' (by rw [hreceived']; simp) larger hheard'
      | _ => exact False.elim hheard'
    exact absurd (hlarger.trans_le (hle''.trans hle)) (lt_irrefl _)

/-- A server sends a GOAWAY for every request, and takes the next one. -/
theorem goaway_notKept : ¬∀ (env : ManagerEnv) (http3 : HTTP3ConnectionState),
    GoawayIsKept env http3 fun _ _ => True := by
  intro hall
  have hready := run_performAll (ManagerCall.perform connectEnv)
    [.receivePeerControlStream draftControlStream] (draftManager .server)
  obtain ⟨-, hrequests, -⟩ := (hall connectEnv { role := .server, localSettings := draftSettings }).1
    _ _ 0 _ _ hready trivial rfl .refl
  have hsame := congrArg (·.get? 0) (hrequests 0
    ⟨HTTP3FrameType.headers, (connectSections.headD ([], [])).2⟩ {} le_rfl trivial)
  revert hsame
  decide +kernel

end WebTransport
