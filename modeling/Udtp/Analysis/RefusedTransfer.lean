import Udtp.Analysis.TransferAgreement

/-!
# Refused transfers

A request is refused before anything is kept for it: the branches that refuse return before
the header gets a file ID and before a file is listed.  `refused_transfer` follows a refusal
through both ends of an exchange.  The receiving end answers with the request itself, of
which only the response code was changed; the requester changes nothing either and answers
nothing, so that the exchange ends as it was before the request, with an empty wire.
-/

set_option autoImplicit false

namespace Udtp

/-- The codes that refuse a request. -/
def ResponseCode.IsRefusal (code : ResponseCode) : Prop :=
  code = .responseFileNotFound ∨ code = .responseFileExistsAlready

namespace UDTPHeader

variable {env : Environment} {u u' : UDTP} {h o h' : UDTPHeader} {b : Bool}

/-- A message that asks for a transfer and was not answered yet. -/
structure IsRequest (h : UDTPHeader) : Prop where
  responseCode : h.responseCode = .responseNone
  transferType : h.transferType = .pull ∨ h.transferType = .push

/-- The requests an end with these files refuses: to pull a file it does not have, and to
push one it has. -/
def Refused (env : Environment) (h : UDTPHeader) : Prop :=
  (h.transferType = .pull ∧ (h.newFile env).checkFileExist env.fileSystem = false) ∨
  (h.transferType = .push ∧ (h.newFile env).checkFileExist env.fileSystem = true)

/-- A refused request is answered with itself under another code, and the endpoint stays as
it was. -/
theorem respond_of_refused (hcode : h.responseCode = .responseNone) (hrefused : h.Refused env)
    (u : UDTP) :
    ∃ code, code.IsRefusal ∧ h.respond env u = .ok (true, h.setResponseCode code, u) ∧
      ((h.transferType = .pull ∧ code = .responseFileNotFound) ∨
        (h.transferType = .push ∧ code = .responseFileExistsAlready)) := by
  have hnone : h.takenFile env = none := by
    rcases hrefused with ⟨htype, hex⟩ | ⟨htype, hex⟩
    · simp [takenFile, htype, hcode]
    · simp [takenFile, htype, hcode, hex]
  rw [respond_of_mapped u (by simp [hnone])]
  rcases hrefused with ⟨htype, hex⟩ | ⟨htype, hex⟩
  · refine ⟨.responseFileNotFound, Or.inl rfl, ?_, Or.inl ⟨htype, rfl⟩⟩
    simp [negotiate, htype, hcode, hex]
  · refine ⟨.responseFileExistsAlready, Or.inr rfl, ?_, Or.inr ⟨htype, rfl⟩⟩
    simp [negotiate, htype, hcode, hex]

/-- Where `respond()` answers a request with a refusal, the files of the end decided it. -/
theorem refused_of_respond (hreq : h.IsRequest) (hr : h.respond env u = .ok (b, h', u'))
    (hcode : h'.responseCode.IsRefusal) : h.Refused env := by
  have happroved : ¬ ResponseCode.IsRefusal .responseApproved := by simp [ResponseCode.IsRefusal]
  rcases hreq.transferType with htype | htype
  · cases hex : (h.newFile env).checkFileExist env.fileSystem with
    | false => exact Or.inl ⟨htype, hex⟩
    | true =>
      have happroval := respond_pullRequest htype hreq.responseCode hex hr
      exact absurd (happroval.2.2.1 ▸ hcode) happroved
  · cases hex : (h.newFile env).checkFileExist env.fileSystem with
    | true => exact Or.inr ⟨htype, hex⟩
    | false =>
      have happroval := respond_pushRequest htype hreq.responseCode hex hr
      exact absurd (happroval.2.1 ▸ hcode) happroved

/-- Whether a request is refused depends on what it says, not on the object it arrives in. -/
theorem Refused.of_sameMessage (hsame : h.SameMessage o) (hrefused : h.Refused env) :
    o.Refused env := by
  have hfile : o.newFile env = h.newFile env := by rw [newFile, newFile, hsame.pathOfFile]
  rw [Refused, hfile, hsame.transferType]
  exact hrefused

/-- A refusal that arrives is not answered and changes nothing, and its path is not looked at. -/
theorem respond_refusal (u : UDTP)
    (hanswer : (h.transferType = .pull ∧ h.responseCode = .responseFileNotFound) ∨
      (h.transferType = .push ∧ h.responseCode = .responseFileExistsAlready)) :
    h.followsPath = false ∧ h.respond env u = .ok (false, h, u) := by
  rcases hanswer with ⟨htype, hcode⟩ | ⟨htype, hcode⟩
  · simp [followsPath, respond, takenFile, negotiate, htype, hcode]
  · simp [followsPath, respond, takenFile, negotiate, htype, hcode]

end UDTPHeader

namespace Exchange

variable {hostEnd peerEnd : EndPoint} {x y z : Exchange} {h r : UDTPHeader}

/-- A delivery that leaves the receiving end as it was changes the wire only. -/
theorem answered_receiver (x : Exchange) (wire : Option Packet) :
    x.answered x.receiver wire = { x with wire := wire, toHost := !x.toHost } := by
  unfold answered receiver
  cases hto : x.toHost with
  | true => simp
  | false => simp

/-- The HOST can handle what is delivered to it if it has a record of the peer; the PEER can
always. -/
def CanReceive (x : Exchange) : Prop := x.toHost = true → (x.host.getPeer x.posID).isSome = true

/-- A message that `respond()` handles without an answer and without its path is delivered. -/
theorem deliver_of_unanswered {input : Delivery} (hx : x.wire = some (.header h))
    (hcan : x.CanReceive)
    (hrespond : ∀ o, h.SameMessage o → ∀ env,
      o.followsPath = false ∧ o.respond env x.receiver = .ok (false, o, x.receiver)) :
    ∃ z, deliver hostEnd peerEnd x input = .ok z := by
  have hprocess : ∀ env socket uniqueID, ∃ q, process env x.receiver
      (setFields x.toHost socket x.posID uniqueID
        (.header (UDTPHeader.ofHeader ((Packet.header h).arrive input.memory).header
          (Packet.header h).packetDeduction))) = .ok (false, q, x.receiver) := by
    intro env socket uniqueID
    obtain ⟨o, ho, hsame, -⟩ := setFields_header x socket uniqueID input.memory h
    rw [ho]
    obtain ⟨hpath, hanswer⟩ := hrespond o hsame env
    exact ⟨_, process_header.mpr ⟨by rw [hpath, Bool.false_and], o, hanswer, rfl⟩⟩
  unfold deliver
  simp only [hx]
  cases hto : x.toHost with
  | true =>
    obtain ⟨peer, hpeer⟩ := Option.isSome_iff_exists.mp (hcan hto)
    obtain ⟨q, hq⟩ := hprocess (hostEnd.environment input) x.socket peer.uniqueID
    simp only [setFields, receiver, hto, if_true] at hq
    rw [if_pos rfl, receiveHost_eq x.socket rfl hpeer rfl, hq]
    exact ⟨_, rfl⟩
  | false =>
    obtain ⟨q, hq⟩ := hprocess (peerEnd.environment input) x.peer.listenSocket 0
    simp only [setFields, receiver, hto, Bool.false_eq_true, if_false] at hq
    have hreceive : receivePeer (peerEnd.environment input) ((Packet.header h).arrive input.memory)
        (Packet.header h).packetDeduction x.peer.listenSocket x.peer = .ok ([], x.peer) := by
      simp only [receivePeer, construct, Packet.packetDeduction, Packet.rawReadable, Bool.not_true,
        Bool.false_eq_true, if_false] at hq ⊢
      rw [hq]
      rfl
    rw [if_neg Bool.false_ne_true, hreceive]
    exact ⟨_, rfl⟩

/-- **A refused transfer leaves no trace.** Whenever `respond()` at the receiving end refuses a
request, the delivery of the request changes nothing there and sends it back under a refusing
code; the delivery of that refusal changes nothing at the requester and sends nothing, so that
the exchange is as it was, with nothing on the wire. -/
theorem refused_transfer {input : Delivery} {h' : UDTPHeader} {b : Bool} {u : UDTP}
    (hx : x.wire = some (.header h)) (hreq : h.IsRequest)
    (hr : h.respond ((x.receiverEnd hostEnd peerEnd).environment input) x.receiver = .ok (b, h', u))
    (hcode : h'.responseCode.IsRefusal) (hy : deliver hostEnd peerEnd x input = .ok y) :
    ∃ r, y = { x with wire := some (.header r), toHost := !x.toHost } ∧
      r.responseCode.IsRefusal ∧ (h.setResponseCode r.responseCode).SameMessage r ∧
      (∀ input' z, deliver hostEnd peerEnd y input' = .ok z → z = { x with wire := none }) ∧
      ∀ input', y.CanReceive → ∃ z, deliver hostEnd peerEnd y input' = .ok z := by
  have hrefused := UDTPHeader.refused_of_respond hreq hr hcode
  obtain ⟨o, b, r, v, hsame, -, hrespond, rfl⟩ := deliver_header hx hy
  have horequest : o.responseCode = .responseNone := hsame.responseCode.trans hreq.responseCode
  obtain ⟨code, hrefusal, hanswer, hpair⟩ :=
    UDTPHeader.respond_of_refused horequest (hrefused.of_sameMessage hsame) x.receiver
  rw [hanswer] at hrespond
  cases hrespond
  rw [if_pos rfl, answered_receiver]
  have hagain : ∀ o', (o.setResponseCode code).SameMessage o' → ∀ env w,
      o'.followsPath = false ∧ o'.respond env w = .ok (false, o', w) := by
    intro o' hsame' env w
    apply UDTPHeader.respond_refusal
    rw [hsame'.transferType, hsame'.responseCode]
    exact hpair
  refine ⟨_, rfl, hrefusal, ⟨rfl, hsame.pathOfFile, hsame.fileID, hsame.numberOfChunks,
    hsame.sizeOfFile, hsame.transferType⟩, ?_, ?_⟩
  · intro input' z hz
    obtain ⟨o', b', r', w, hsame', -, hrespond', rfl⟩ := deliver_header rfl hz
    rw [(hagain o' hsame' _ _).2] at hrespond'
    cases hrespond'
    rw [if_neg Bool.false_ne_true, answered_receiver, Bool.not_not]
  · intro input' hcan
    exact deliver_of_unanswered rfl hcan fun o' hsame' env => hagain o' hsame' env _

/-- A PEER asks a HOST for a file that is empty there. -/
def pullOfEmpty : Exchange where
  host := ((UDTP.startedIn .host).acceptPeer default ⟨4, 1⟩).2
  peer := UDTP.startedIn .peer
  posID := 1
  socket := ⟨4, 1⟩
  toHost := true
  wire := some (.header { (default : UDTPHeader) with
    responseCode := .responseNone, transferType := .pull, pathOfFile := "a" })

/-- An end with empty files. -/
def emptyFiles : EndPoint := { (default : EndPoint) with fileSystem := fun _ => some 0 }

/-- The HOST refuses to send its empty file. -/
theorem refused_transfer_pullOfEmpty :
    ∃ y z, deliver emptyFiles emptyFiles pullOfEmpty default = .ok y ∧
      deliver emptyFiles emptyFiles y default = .ok z ∧
      z = { pullOfEmpty with wire := none } := by
  obtain ⟨y, hy⟩ : ∃ y, deliver emptyFiles emptyFiles pullOfEmpty default = .ok y := ⟨_, rfl⟩
  obtain ⟨r, rfl, -, -, hback, hdeliver⟩ :=
    refused_transfer rfl ⟨rfl, Or.inl rfl⟩ rfl (Or.inl rfl) hy
  obtain ⟨z, hz⟩ := hdeliver default fun hto => absurd hto Bool.false_ne_true
  exact ⟨_, z, hy, hz, hback default z hz⟩

end Exchange

end Udtp
