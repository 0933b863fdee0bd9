import Mathlib.Data.List.Forall2
import TunnelDeck.Daemon.Returns
import TunnelDeck.Ipc.Connection

/-!
# One response for each request

A connection with requests that are no subscriptions answers them one after the other. Since every
call of the manager returns, the connection gets through all of them, as long as no response is too
large for a frame: `serve_connection` takes the error of `write_frame` for a broken connection and
gives it up. Nothing bounds the rule set, and the list and the status grow with it.

## Main results

* `serves_iff`: the requests of a connection are all answered, one frame for each and in order,
  exactly if no response that is to be written is too large.
* `exampleBulk_unanswered`: a list of thirty thousand rules is too large, and ends the connection.
-/

namespace TunnelDeck.Ipc

open Json (Value)
open Concurrency

/-! ## Serving -/

/-- The frames answer the requests: one for each, in order, with the id of its request and within
the limit. -/
def Answers (requests : List Request) (sent : List Response) : Prop :=
  List.Forall₂ (fun request response ↦ response.requestId = request.requestId ∧
    Fits responseVec response) requests sent

theorem Answers.append {requests : List Request} {sent : List Response}
    (h : Answers requests sent) {request : Request} {response : Response}
    (hid : response.requestId = request.requestId) (hfits : Fits responseVec response) :
    Answers (requests ++ [request]) (sent ++ [response]) :=
  List.rel_append h (.cons ⟨hid, hfits⟩ .nil)

/-- The connection serves the requests: the first ones are answered, the next one is at work or
nothing is, and the others are still to be read. -/
inductive Serving (requests : List Request) : Conn Pc → Prop
  | reading {answered rest : List Request} {sent : List Response}
    (hrequests : requests = answered ++ rest) (h : Answers answered sent) :
    Serving requests { inbox := rest.map .ok, sent, pc := .reading }
  | handling {answered rest : List Request} {sent : List Response} {request : Request} {pc : Pc}
    (hrequests : requests = answered ++ request :: rest) (h : Answers answered sent) :
    Serving requests { inbox := rest.map .ok, sent, pc := .handling request pc }
  | answering {answered rest : List Request} {sent : List Response} {request : Request}
    {response : Response} (hrequests : requests = answered ++ request :: rest)
    (h : Answers answered sent) (hid : response.requestId = request.requestId) :
    Serving requests { inbox := rest.map .ok, sent, pc := .answering request response }

/-- The request is of this version and no subscription. -/
def Request.Plain (request : Request) : Prop :=
  request.protocolVersion = Ipc.protocolVersion ∧ request.operation ≠ .subscribe

instance (request : Request) : Decidable request.Plain := inferInstanceAs (Decidable (_ ∧ _))

/-- The socket takes what is written, and the response to be written is not too large. -/
def Writable (env : ServeEnv Env) (c : Conn Pc) : Prop :=
  env.fault = none ∧ ∀ request response, c.pc = .answering request response →
    Fits responseVec response

theorem Conn.received_of_plain {σ π ε : Type} (handler : RequestHandler σ π ε)
    (fault : Option WriteFault) (c : Conn π) {request : Request} (hplain : request.Plain) :
    c.received handler fault (.ok request) =
      { c with pc := .handling request (handler.handle request) } :=
  if_neg (not_not_intro hplain.1)

theorem Conn.answered_of_fits {c : Conn Pc} {request : Request} {response : Response}
    (hplain : request.Plain) (hfits : Fits responseVec response) :
    c.answered none request response =
      { c with sent := c.sent ++ [response], pc := .reading } := by
  have hwrite := (writeFrame_ok_iff responseVec response []).mpr hfits
  simp only [answered, write, hwrite, if_neg hplain.2]

theorem Conn.answered_of_not_fits {c : Conn Pc} {request : Request} {response : Response}
    (hfits : ¬ Fits responseVec response) : (c.answered none request response).pc = .closed := by
  have hwrite := mt (writeFrame_ok_iff responseVec response []).mp hfits
  rw [answered, write]
  rcases hframe : (writeFrame responseVec none response []).1 with error | _
  · rfl
  · exact absurd hframe hwrite

theorem requestId_of_response {crates : Crates} {managed : Bool} {request : Request} {pc : Pc}
    {response : Response} (h : (manager crates managed).response request pc = some response) :
    response.requestId = request.requestId := by
  simp only [manager] at h
  split at h
  · rw [← Option.some.inj h, Request.respond_requestId]
  · cases h

section Serve

variable {crates : Crates} {managed : Bool} {requests : List Request}
  (hrequests : ∀ request ∈ requests, request.Plain)

include hrequests

/-- A section of a connection that serves its requests. -/
theorem Serving.step {c : Conn Pc} (h : Serving requests c) {env : ServeEnv Env}
    (hwrite : Writable env c) (s : Server Daemon) :
    Serving requests (serve (manager crates managed) env s c).2 := by
  cases h with
  | @reading answered rest sent hsplit h =>
    cases rest with
    | nil => exact .reading hsplit h
    | cons request rest =>
      have hplain : request.Plain := hrequests request (by rw [hsplit]; simp)
      simp only [serve, List.map_cons, Conn.received_of_plain _ _ _ hplain]
      exact .handling hsplit h
  | @handling answered rest sent request pc hsplit h =>
    simp only [serve]
    split
    · rename_i response hresponse
      exact .answering hsplit h (requestId_of_response hresponse)
    · exact .handling hsplit h
  | @answering answered rest sent request response hsplit h hid =>
    have hplain : request.Plain := hrequests request (by rw [hsplit]; simp)
    have hfits := hwrite.2 request response rfl
    simp only [serve, hwrite.1, Conn.answered_of_fits hplain hfits]
    exact .reading (by rw [hsplit, List.append_assoc, List.singleton_append]) (h.append hid hfits)

/-- The connection answers the rest of its requests. -/
theorem ends_reading {rest : List Request} (hrest : ∀ request ∈ rest, request ∈ requests)
    (sent : List Response) :
    Ends (serve (manager crates managed)) Writable (fun c ↦ c.pc = .reading ∧ c.inbox = [])
      { inbox := rest.map .ok, sent, pc := .reading } := by
  induction rest generalizing sent with
  | nil => exact .reached ⟨rfl, rfl⟩
  | cons request rest ih =>
    have hplain : request.Plain := hrequests request (hrest request List.mem_cons_self)
    have hnext := ih fun other hother ↦ hrest other (List.mem_cons_of_mem _ hother)
    have hanswering : ∀ response, Ends (serve (manager crates managed)) Writable
        (fun c ↦ c.pc = .reading ∧ c.inbox = [])
        { inbox := rest.map .ok, sent, pc := .answering request response } := by
      refine fun response ↦ .next fun env s hwrite ↦ ?_
      simp only [serve, hwrite.1, Conn.answered_of_fits hplain (hwrite.2 request response rfl)]
      exact hnext _
    -- the call runs inside the connection
    have hhandling : ∀ pc, Returns crates managed pc →
        Ends (serve (manager crates managed)) Writable (fun c ↦ c.pc = .reading ∧ c.inbox = [])
          { inbox := rest.map .ok, sent, pc := .handling request pc } := by
      intro pc hpc
      induction hpc with
      | reached h =>
        obtain ⟨inner, reply, rfl⟩ := h
        exact .next fun _ _ _ ↦ hanswering _
      | @next pc _ ih =>
        refine .next fun env s _ ↦ ?_
        simp only [serve]
        split
        · exact hanswering _
        · exact ih env.handler s.state trivial
    refine .next fun env s _ ↦ ?_
    simp only [serve, List.map_cons, Conn.received_of_plain _ _ _ hplain]
    exact hhandling _ (returns_handle request.toRequest)

/-- **One response for each request.** Let a connection have any requests of this version that are
no subscriptions, next to any other threads. It serves them at any time and answers all of them
exactly if no response that it comes to write is too large. -/
theorem serves_iff {w : Threads Daemon Pc} {t : ℕ}
    (hthread : w.thread t = { inbox := requests.map .ok }) {schedule : ℕ → ℕ × ServeEnv Env}
    (hfair : Fair t schedule) (hfault : ∀ n, (schedule n).1 = t → (schedule n).2.fault = none) :
    ((∀ n, Serving requests ((w.after (serve (manager crates managed)) schedule n).thread t)) ∧
      ∃ n sent, (w.after (serve (manager crates managed)) schedule n).thread t =
        { sent, pc := .reading } ∧ Answers requests sent) ↔
    ∀ n request response,
      ((w.after (serve (manager crates managed)) schedule n).thread t).pc =
        .answering request response → Fits responseVec response := by
  constructor
  · rintro ⟨hserving, -⟩ n request response hpc
    by_contra hfits
    -- the next section of the connection would end it
    obtain ⟨m, hm, ht, hquiet⟩ := hfair.next n
    have hstay := World.after_thread_of_ne (serve (manager crates managed)) w hm hquiet
    have hclosed : ((w.after (serve (manager crates managed)) schedule (m + 1)).thread t).pc =
        .closed := by
      rw [World.after_succ_thread_self _ w ht, hstay]
      simp only [serve, hpc, hfault m ht]
      exact Conn.answered_of_not_fits hfits
    have hnext := hserving (m + 1)
    generalize (w.after (serve (manager crates managed)) schedule (m + 1)).thread t = c
      at hclosed hnext
    cases hnext <;> cases hclosed
  · intro hfits
    have hwritable : ∀ n, (schedule n).1 = t → Writable (schedule n).2
        ((w.after (serve (manager crates managed)) schedule n).thread t) :=
      fun n ht ↦ ⟨hfault n ht, hfits n⟩
    have hserving := World.invariant_after (serve (manager crates managed))
      (I := Serving requests) (C := Writable)
      (fun env s c h hwrite ↦ h.step hrequests hwrite s)
      (by rw [hthread]; exact .reading (List.nil_append _).symm .nil) hwritable
    refine ⟨hserving, ?_⟩
    obtain ⟨n, -, hpc, hinbox⟩ := (ends_reading hrequests (fun _ h ↦ h) []).eventually hfair
      hwritable (n := 0) hthread
    have hnow := hserving n
    generalize hc : (w.after (serve (manager crates managed)) schedule n).thread t = c
      at hpc hinbox hnow
    cases hnow with
    | @reading answered rest sent hsplit h =>
      obtain rfl : rest = [] := List.map_eq_nil_iff.mp hinbox
      rw [List.append_nil] at hsplit
      exact ⟨n, sent, hc, hsplit ▸ h⟩
    | handling | answering => cases hpc

end Serve

/-! ## Requests that are answered -/

/-- A request of this version without a payload. -/
def examplePlain (operation : Operation) : Request where
  protocolVersion := 1
  requestId := 7
  operation := operation
  payload := .object []

/-- A schedule with one thread only, in which nothing of the environment fails. -/
def exampleAlone (_ : ℕ) : ℕ × ServeEnv Env := (0, ⟨{}, none⟩)

theorem exampleAlone_fair : Fair 0 exampleAlone := fun n ↦ ⟨n, le_rfl, rfl⟩

/-- A request whose payload is of a wrong type. -/
def exampleUntyped : Request where
  protocolVersion := 1
  requestId := 8
  operation := .settingsUpdate
  payload := .string "dark"

/-- What the daemon refuses each of the two requests with. -/
inductive ExampleRefused : Request → Failure → Prop
  | hostList : ExampleRefused (examplePlain .hostList)
      (.unavailable, "operation is not handled by the daemon yet")
  | untyped : ExampleRefused exampleUntyped (.invalidRequest, "invalid payload")

theorem ExampleRefused.plain {request : Request} {failure : Failure}
    (h : ExampleRefused request failure) : request.Plain := by
  cases h <;> decide

theorem ExampleRefused.fits {request : Request} {failure : Failure}
    (h : ExampleRefused request failure) : Fits responseVec (request.respond (.error failure)) := by
  cases h with
  | hostList | untyped => exact ⟨_, rfl, by decide +kernel⟩

/-- The points of a connection that only has such requests. -/
inductive ExamplePoint : ConnPc Pc → Prop
  | reading : ExamplePoint .reading
  | dispatch {request : Request} {failure : Failure} (h : ExampleRefused request failure) :
    ExamplePoint (.handling request (.dispatch request.toRequest))
  | returned {request : Request} {failure : Failure} (h : ExampleRefused request failure) :
    ExamplePoint (.handling request (.returned request.toRequest (.error failure)))
  | answering {request : Request} {failure : Failure} (h : ExampleRefused request failure) :
    ExamplePoint (.answering request (request.respond (.error failure)))

/-- The connection has such requests to read, and is at such a point. -/
def ExampleConn (c : Conn Pc) : Prop :=
  ExamplePoint c.pc ∧ ∀ read ∈ c.inbox, ∃ request failure,
    read = .ok request ∧ ExampleRefused request failure

theorem ExampleConn.step {c : Conn Pc} (h : ExampleConn c) {env : ServeEnv Env}
    (hfault : env.fault = none) (s : Server Daemon) :
    ExampleConn (serve (manager exampleCrates true) env s c).2 := by
  obtain ⟨inbox, sent, events, pc⟩ := c
  obtain ⟨hpoint, hinbox⟩ := h
  cases hpoint with
  | reading =>
    rcases inbox with _ | ⟨read, inbox⟩
    · exact ⟨.reading, hinbox⟩
    · obtain ⟨request, failure, rfl, hrefused⟩ := hinbox read List.mem_cons_self
      have hrest := fun other hother ↦ hinbox other (List.mem_cons_of_mem _ hother)
      cases hrefused with
      | hostList => exact ⟨.dispatch .hostList, hrest⟩
      | untyped => exact ⟨.dispatch .untyped, hrest⟩
  | dispatch hrefused =>
    cases hrefused with
    | hostList => exact ⟨.returned .hostList, hinbox⟩
    | untyped => exact ⟨.returned .untyped, hinbox⟩
  | returned hrefused => exact ⟨.answering hrefused, hinbox⟩
  | answering hrefused =>
    simp only [serve, hfault, Conn.answered_of_fits hrefused.plain hrefused.fits]
    exact ⟨.reading, hinbox⟩

def exampleWaiting : Threads Daemon Pc :=
  exampleServer.setThread 0 { inbox := [examplePlain .hostList, exampleUntyped].map .ok }

/-- Both requests are answered. -/
theorem serves_iff_exampleWaiting :
    ∃ n sent, (exampleWaiting.after (serve (manager exampleCrates true)) exampleAlone n).thread 0 =
      { sent, pc := .reading } ∧ Answers [examplePlain .hostList, exampleUntyped] sent := by
  have hconn : ∀ n, ExampleConn ((exampleWaiting.after (serve (manager exampleCrates true))
      exampleAlone n).thread 0) := by
    refine World.invariant_after (serve (manager exampleCrates true)) (I := ExampleConn)
      (C := fun env _ ↦ env.fault = none) (fun env s c h hfault ↦ h.step hfault s) ?_
      fun _ _ ↦ rfl
    rw [exampleWaiting, World.setThread_thread_self]
    refine ⟨.reading, fun read hread ↦ ?_⟩
    rcases List.mem_pair.mp hread with rfl | rfl
    · exact ⟨_, _, rfl, .hostList⟩
    · exact ⟨_, _, rfl, .untyped⟩
  refine ((serves_iff
    (show ∀ request ∈ [examplePlain .hostList, exampleUntyped], request.Plain by decide)
    (World.setThread_thread_self ..) exampleAlone_fair fun _ _ ↦ rfl).mpr
    fun n request response hpc ↦ ?_).2
  have hnow := (hconn n).1
  rw [exampleWaiting, hpc] at hnow
  cases hnow with
  | answering hrefused => exact hrefused.fits

/-! ## A rule set that is too large -/

theorem checkRuleName_formatUuid (id : Uuid) : checkRuleName (Text.formatUuid id) = .ok () := by
  have hlength := Text.length_formatUuid id
  refine validateText_eq_ok .ruleName true (fun hnil ↦ ?_) (by omega) fun c hc ↦ ?_
  · rw [← String.length_toList, hnil] at hlength
    cases hlength
  · have hdigits : ∀ d < 16, Text.isControl (Text.hexDigit d) = false ∧
        Text.isWhitespace (Text.hexDigit d) = false := by decide
    rcases Text.mem_formatUuid hc with rfl | ⟨d, hd, rfl⟩
    · decide
    · exact hdigits d hd

/-- A remote rule named after its id. -/
def exampleNumbered (n : ℕ) : Rule where
  id := BitVec.ofNat 128 n
  name := ⟨Text.formatUuid (BitVec.ofNat 128 n), checkRuleName_formatUuid _⟩
  sshHostAlias := ⟨"production", checkHostAlias_production⟩
  forwarding := .remoteForwarding {
    bindAddress := .loopback
    bindPort := ⟨8080, by decide⟩
    destinationHost := ⟨"127.0.0.1", checkDestinationHost_loopback⟩
    destinationPort := ⟨8080, by decide⟩ }
  autoStart := false
  reconnect := false

def exampleBulk : List Rule := (List.range 30000).map exampleNumbered

theorem exampleBulk_valid : validateRuleSet exampleBulk = .ok () := by
  rw [validateRuleSet_eq_ok_iff, exampleBulk, List.pairwise_map]
  refine (List.nodup_range (n := 30000)).imp_of_mem fun {m n} hm hn hne hclash ↦ ?_
  rcases hclash with hname | hlistener
  · have hid := congrArg (fun name : RuleName ↦ Text.parseUuid name.asStr) hname
    simp only [exampleNumbered] at hid
    rw [Text.parseUuid_formatUuid, Text.parseUuid_formatUuid, Option.some.injEq] at hid
    have hnat := congrArg BitVec.toNat hid
    rw [BitVec.toNat_ofNat, BitVec.toNat_ofNat, Nat.mod_eq_of_lt, Nat.mod_eq_of_lt] at hnat
    · exact hne hnat
    · exact (List.mem_range.mp hn).trans (by decide)
    · exact (List.mem_range.mp hm).trans (by decide)
  · exact absurd hlistener Bool.false_ne_true

/-- The crates with the text of one document. -/
def bulkCrates (rules : List Rule) : Crates :=
  .ofTable [(⟨2, rules.map WireRule.ofRule, .default⟩, "bulk")]

theorem openState_bulkCrates {rules : List Rule} (h : validateRuleSet rules = .ok ()) :
    openState (bulkCrates rules) exampleFaults (exampleDirectory "bulk") =
      .ok (exampleState (exampleDirectory "bulk") rules) := by
  refine openState_exampleDirectory rfl ?_
  have hconfig : ConfigV2.intoDomain ⟨2, rules.map WireRule.ofRule, .default⟩ =
      .ok (rules, .default) := (fromDomain_eq_ok (by simp only [ConfigV2.fromDomain, h]; rfl)).2.2
  have hschema : schema (bulkCrates rules) "bulk" = .ok schemaVersion := rfl
  have hdocument : (bulkCrates rules).tomlV2 "bulk" =
      .ok ⟨2, rules.map WireRule.ofRule, .default⟩ := rfl
  simp only [decode, hschema, hdocument, Except.mapError, Except.bind, hconfig, bind, ne_eq,
    not_true, if_false]
  rfl

/-- A listed rule takes more than its id and its name. -/
theorem length_encodeRule_exampleNumbered (crates : Crates) (n : ℕ) :
    36 ≤ (encodeRule crates (WireRule.ofRule (exampleNumbered n))).compact.length := by
  have hname := Json.length_lt_length_quote (Text.formatUuid (BitVec.ofNat 128 n))
  rw [Text.length_formatUuid] at hname
  simp only [exampleNumbered, WireRule.ofRule, encodeRule, Json.Value.compact, Json.compactFields,
    List.length_cons, List.length_append]
  omega

/-- The response that lists some rules. -/
def listed (crates : Crates) (rules : List Rule) : Response :=
  success 7 (.array ((rules.map WireRule.ofRule).map (encodeRule crates)))

/-- A result that is too large makes a response that is too large. -/
theorem not_fits_success {id : Uuid} {result : Value}
    (h : maxMessageBytes < result.compact.length) : ¬ Fits responseVec (success id result) := by
  rintro ⟨bytes, hbytes, hfits⟩
  obtain rfl := Option.some.inj hbytes
  have htext := Json.length_le_length_utf8 (encodeResponse (success id result)).compact
  have hresult : result.compact.length ≤
      (encodeResponse (success id result)).compact.length := by
    simp only [success, encodeResponse, Json.Value.compact, Json.compactFields, List.length_cons,
      List.length_append]
    omega
  rw [Json.Value.toVec] at hfits
  omega

theorem not_fits_listed (crates : Crates) : ¬ Fits responseVec (listed crates exampleBulk) := by
  have hitems : ∀ v ∈ (exampleBulk.map WireRule.ofRule).map (encodeRule crates),
      36 ≤ v.compact.length := by
    intro v hv
    rw [List.map_map, exampleBulk, List.map_map] at hv
    obtain ⟨n, -, rfl⟩ := List.mem_map.mp hv
    exact length_encodeRule_exampleNumbered crates n
  have harray := Json.le_length_compact_array hitems
  rw [List.length_map, List.length_map, exampleBulk, List.length_map, List.length_range] at harray
  refine not_fits_success (Nat.lt_of_lt_of_le ?_ harray)
  rw [maxMessageBytes]
  omega

/-- The daemon with some rules, and a connection that asks for their list. -/
def bulkServer (rules : List Rule) : Threads Daemon Pc :=
  ({ shared := { state := (System.opened (exampleState (exampleDirectory "bulk") rules)).shared }
     thread := fun _ ↦ {} } : Threads Daemon Pc).setThread 0
    { inbox := [examplePlain .forwardList].map .ok }

theorem forwardList_bulk (crates : Crates) {rules : List Rule}
    (h : validateRuleSet rules = .ok ()) :
    (examplePlain .forwardList).respond
        (forwardList crates (exampleState (exampleDirectory "bulk") rules)) =
      listed crates rules := by
  simp only [forwardList, exampleState, ConfigV2.fromDomain, h]
  rfl

/-- After reading, handling and two more sections the connection is closed, and nothing was
sent. -/
theorem bulkServer_closed {crates : Crates} {rules : List Rule} (h : validateRuleSet rules = .ok ())
    (hfits : ¬ Fits responseVec (listed crates rules)) :
    (((bulkServer rules).after (serve (manager crates true)) exampleAlone 4).thread 0).pc =
      .closed := by
  have hplain : (examplePlain .forwardList).Plain := by decide
  have hthread : (bulkServer rules).thread 0 = { inbox := [.ok (examplePlain .forwardList)] } :=
    World.setThread_thread_self ..
  have hnext := fun n ↦ World.after_succ_thread_self (serve (manager crates true))
    (bulkServer rules) (show (exampleAlone n).1 = 0 from rfl)
  have hread : ((bulkServer rules).after (serve (manager crates true)) exampleAlone 1).thread 0 =
      { pc := .handling (examplePlain .forwardList)
          (.dispatch (examplePlain .forwardList).toRequest) } := by
    refine (hnext 0).trans ?_
    rw [World.after, runFor_zero, hthread]
    simp only [serve, Conn.received_of_plain _ _ _ hplain]
    rfl
  have hshared : ((bulkServer rules).after (serve (manager crates true)) exampleAlone 1).shared =
      (bulkServer rules).shared := by
    rw [World.after, runFor_succ, World.step_shared, runFor_zero]
    show (serve _ _ _ ((bulkServer rules).thread 0)).1 = _
    rw [hthread]
    rfl
  have hhandled : ((bulkServer rules).after (serve (manager crates true)) exampleAlone 2).thread 0 =
      { pc := .handling (examplePlain .forwardList)
          (.returned (examplePlain .forwardList).toRequest
            (forwardList crates (exampleState (exampleDirectory "bulk") rules))) } := by
    refine (hnext 1).trans ?_
    rw [hread, hshared]
    rfl
  have hanswer : ((bulkServer rules).after (serve (manager crates true)) exampleAlone 3).thread 0 =
      { pc := .answering (examplePlain .forwardList) (listed crates rules) } := by
    refine (hnext 2).trans ?_
    rw [hhandled, ← forwardList_bulk crates h]
    rfl
  rw [hnext 3, hanswer]
  exact Conn.answered_of_not_fits hfits

/-- The daemon opens the document, and a client that asks for the list gets no response. -/
theorem exampleBulk_unanswered :
    openState (bulkCrates exampleBulk) exampleFaults (exampleDirectory "bulk") =
        .ok (bulkServer exampleBulk).shared.state.state ∧
      (examplePlain .forwardList).Plain ∧
      ¬ ∀ n, Serving [examplePlain .forwardList] (((bulkServer exampleBulk).after
        (serve (manager (bulkCrates exampleBulk) true)) exampleAlone n).thread 0) := by
  refine ⟨openState_bulkCrates exampleBulk_valid, by decide, fun hserving ↦ ?_⟩
  have hclosed := bulkServer_closed exampleBulk_valid (not_fits_listed (bulkCrates exampleBulk))
  have hnow := hserving 4
  generalize ((bulkServer exampleBulk).after (serve (manager (bulkCrates exampleBulk) true))
    exampleAlone 4).thread 0 = c at hclosed hnow
  cases hnow <;> cases hclosed

end TunnelDeck.Ipc
