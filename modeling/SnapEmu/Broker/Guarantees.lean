import SnapEmu.Broker.Running

/-! What clients may rely on, whatever the order of events. -/
namespace SnapEmu.Broker

open Mqtt (Str)
open Semantics Exec

namespace Router

/-- The request reads the log of its filter. -/
def Reads (router : Router) (request : DataRequest) (data : Data) : Prop :=
  router.datalog.native[request.filterIdx]? = some data ∧ data.filter = request.filter

/-- The connection has a request for the filter, which reads the log of the
filter. -/
def Held (router : Router) (client : Client) (path : FilterName) : Prop :=
  ∃ request ∈ client.tracker.dataRequests, request.filter = path ∧
    ∃ data, router.Reads request data

variable {tidy : Prop} {router : Router} {histories : FilterIdx → List PublishData}
  {id : ConnectionId} {path : FilterName}

/-- A request for a log that is there reads the log of its filter. -/
theorem Sound.reads (h : router.Sound tidy histories []) {request : DataRequest}
    (hRequest : request.Sound router.datalog histories) : ∃ data, router.Reads request data :=
  h.datalog.named request.filter request.filterIdx hRequest.known

end Router

/-! A client subscribes to `a/+` and keeps its session, and another one sends it
two messages. -/
namespace Sample

def config : RouterConfig := ⟨10, 10, 1024, 2, none, none, .RoundRobin⟩

def order : IterationOrder := ⟨fun items => items, fun items => .refl items⟩

def link (name : UInt8) : LinkBuilder := ⟨[name], false, none, none, true, 0⟩

def filter : Filter := ⟨[97, 47, 43], .AtLeastOnce, false, false, .OnEverySubscribe⟩

def message (content : UInt8) : Packet :=
  .Publish { Publish.new [97, 47, 98] [content] false with qos := .AtLeastOnce, pkid := 1 } none

def inputs : List (Instant × Router.Input) :=
  [(0, .connect (link 99)), (1, .deviceData 0 [.Subscribe ⟨1, [filter]⟩ none]),
    (2, .connect (link 112)), (3, .consume 0), (4, .deviceData 1 [message 1, message 2]),
    (5, .consume 0), (5, .consume 0)]

/-- The first client goes, and the other one comes and sends a message. -/
def meanwhile : List (Instant × Router.Input) :=
  [(2, .disconnect 0), (3, .connect (link 112)), (4, .deviceData 0 [message 1])]

theorem valid : config.Valid := ⟨by decide, by decide, by simp [config]⟩

theorem plain : ∀ input ∈ inputs, input.2.Plain := by
  have hFilter : Router.Plain filter.path := ⟨.inr rfl, rfl⟩
  have hMessage : ∀ content, (message content).Plain := fun _ => .inr rfl
  intro input hInput
  simp only [inputs, List.mem_cons, List.not_mem_nil, or_false] at hInput
  rcases hInput with rfl | rfl | rfl | rfl | rfl | rfl | rfl
  · exact nofun
  · intro packet hPacket
    rw [List.mem_singleton.mp hPacket]
    intro other hOther
    rw [List.mem_singleton.mp hOther]
    exact hFilter
  · exact nofun
  · trivial
  · intro packet hPacket
    rcases List.mem_cons.mp hPacket with rfl | hSecond
    · exact hMessage 1
    · exact List.mem_singleton.mp hSecond ▸ hMessage 2
  · trivial
  · trivial

theorem tidy : ∀ input ∈ inputs, input.2.Tidy := by
  intro input hInput
  simp only [inputs, List.mem_cons, List.not_mem_nil, or_false] at hInput
  rcases hInput with rfl | rfl | rfl | rfl | rfl | rfl | rfl
  · trivial
  · exact List.pairwise_singleton _ _
  · trivial
  · trivial
  · refine List.pairwise_pair.mpr fun _ hGivesUp => ?_
    exact hGivesUp
  · trivial
  · trivial

end Sample

namespace System

variable {tidy : Prop} {config : RouterConfig} {system system' : System} {order : IterationOrder}
  {inputs : List (Instant × Router.Input)}

/-- A run gets to its end unless a link asks for more, or for a shadow, behind
the end of its connection. -/
theorem runs_to_end (hConfig : config.Valid) (hNew : System.new config = ok system)
    (order : IterationOrder) (hPlain : ∀ input ∈ inputs, input.2.Plain) :
    (∃ system', inputs.foldlM (System.step order) system = ok system') ↔
      ∀ before input after system', inputs = before ++ input :: after →
        before.foldlM (System.step order) system = ok system' →
          ¬input.2.Stops system'.router := by
  have hGood : system.Good False := new_good hConfig hNew
  constructor
  · rintro ⟨last, hRun⟩ before input after system' rfl hBefore hStops
    rw [run_aborts hBefore (step_stops hStops)] at hRun
    cases hRun
  · intro hNever
    rcases run_or_stops hGood order hPlain nofun with
      ⟨last, hRun, _⟩ | ⟨before, input, after, last, hSplit, hBefore, hStops⟩
    · exact ⟨last, hRun⟩
    · exact absurd hStops (hNever before input after last hSplit hBefore)

/-- The sample gets to its end, and does not if a link that is not there asks
for more. -/
theorem runs_to_end_sample :
    ∃ system, System.new Sample.config = ok system ∧
      (∃ system', Sample.inputs.foldlM (System.step Sample.order) system = ok system') ∧
      ¬∃ system', (Sample.inputs ++ [(6, Router.Input.ready 7)]).foldlM
        (System.step Sample.order) system = ok system' := by
  refine ⟨_, rfl, ⟨_, rfl⟩, fun hEnd => ?_⟩
  have hPlain : ∀ input ∈ Sample.inputs ++ [(6, Router.Input.ready 7)], input.2.Plain := by
    intro input hInput
    rcases List.mem_append.mp hInput with hOld | hNew
    · exact Sample.plain input hOld
    · rw [List.mem_singleton.mp hNew]
      trivial
  exact (runs_to_end Sample.valid rfl Sample.order hPlain).mp hEnd Sample.inputs (6, .ready 7) [] _
    rfl rfl rfl

/-- What is in flight to a client has packet identifiers of its own, and there
is not more of it than allowed. -/
theorem window_bounded (hNew : System.new config = ok system) (order : IterationOrder)
    (inputs : List (Instant × Router.Input))
    (hRun : inputs.foldlM (System.step order) system = ok system') :
    ∀ id client, system'.router.clients.get? id = some client →
      client.outgoing.inflightBuffer.length ≤ maxInflight ∧
        (client.outgoing.inflightBuffer.map fun entry => entry.1).Nodup ∧
        ∀ entry ∈ client.outgoing.inflightBuffer, 1 ≤ entry.1.toNat ∧
          entry.1.toNat ≤ maxPkid.toNat := by
  intro id client hClient
  obtain ⟨sent, hWindow⟩ := ((run_agreed hNew hRun).clients id client hClient).numbered
  refine ⟨hWindow.bound, hWindow.nodup, fun entry hEntry => ?_⟩
  have hPkid := List.mem_map_of_mem (f := fun entry : Inflight => entry.1.toNat) hEntry
  rw [hWindow.pkids] at hPkid
  exact CyclicWindow.mem_window (by decide) hPkid

/-- Behind the sample two messages are in flight. -/
theorem window_bounded_sample :
    ∃ system system' client, System.new Sample.config = ok system ∧
      Sample.inputs.foldlM (System.step Sample.order) system = ok system' ∧
      system'.router.clients.get? 0 = some client ∧ client.outgoing.inflightBuffer.length = 2 ∧
      (client.outgoing.inflightBuffer.map fun entry => entry.1).Nodup :=
  have hNew : System.new Sample.config = ok _ := rfl
  ⟨_, _, _, rfl, rfl, rfl, rfl, (window_bounded hNew Sample.order Sample.inputs rfl 0 _ rfl).2.1⟩

/-- A client has one connection at most, which is found by its name, and there
are not more connections than allowed. -/
theorem clients_distinct (hNew : System.new config = ok system) (order : IterationOrder)
    (inputs : List (Instant × Router.Input))
    (hRun : inputs.foldlM (System.step order) system = ok system') :
    (∀ clientId id, system'.router.connectionMap clientId = some id ↔
      ∃ client, system'.router.clients.get? id = some client ∧
        client.connection.clientId = clientId) ∧
      system'.router.clients.count ≤ config.maxConnections := by
  have hDirectory := (run_agreed hNew hRun).directory
  refine ⟨fun clientId id => ⟨hDirectory.named clientId id, ?_⟩, hDirectory.count⟩
  rintro ⟨client, hClient, rfl⟩
  exact hDirectory.mapped id client hClient

theorem clients_distinct_sample :
    ∃ system system' client, System.new Sample.config = ok system ∧
      Sample.inputs.foldlM (System.step Sample.order) system = ok system' ∧
      system'.router.clients.get? 1 = some client ∧ client.connection.clientId = [112] := by
  have hNew : System.new Sample.config = ok _ := rfl
  obtain ⟨hFound, _⟩ := clients_distinct hNew Sample.order Sample.inputs rfl
  obtain ⟨client, hClient, hName⟩ := (hFound [112] 1).mp rfl
  exact ⟨_, _, client, rfl, rfl, hClient, hName⟩

/-- If no filter is given up behind a message of the same batch, a connection
has one request for each of its subscriptions and no others. -/
theorem requests_exact (hConfig : config.Valid) (hNew : System.new config = ok system)
    (order : IterationOrder)
    (hPlain : ∀ input ∈ inputs, input.2.Plain) (hTidy : ∀ input ∈ inputs, input.2.Tidy)
    (hRun : inputs.foldlM (System.step order) system = ok system') :
    ∀ id client, system'.router.clients.get? id = some client → ∀ path,
      (client.tracker.dataRequests.countP fun request => request.filter = path) +
          countFor id path system'.router.datalog.allWaiters =
        if path ∈ client.connection.subscriptions then 1 else 0 := by
  have hGood : system'.Good True := run_good hConfig hNew hPlain (fun _ => hTidy) hRun
  obtain ⟨⟨⟨histories, hSound⟩, _⟩, hFresh⟩ := hGood
  intro id client hClient path
  obtain ⟨hLeast, hMost⟩ := hSound.served id client hClient path
  have hTally : client.tally id path (system'.router.pending []) =
      (client.tracker.dataRequests.countP fun request => request.filter = path) +
        countFor id path system'.router.datalog.allWaiters := by
    rw [Client.tally, Router.pending, hFresh, List.append_nil, List.append_nil]
  rw [← hTally]
  obtain ⟨hOne, hNone⟩ := hMost trivial
  split_ifs with hPath
  · exact Nat.le_antisymm hOne (hLeast hPath)
  · exact hNone hPath

theorem requests_exact_sample :
    ∃ system system', System.new Sample.config = ok system ∧
      Sample.inputs.foldlM (System.step Sample.order) system = ok system' ∧
      countFor 0 Sample.filter.path system'.router.datalog.allWaiters = 1 := by
  have hOne := requests_exact Sample.valid rfl Sample.order Sample.plain Sample.tidy rfl
    0 _ rfl Sample.filter.path
  exact ⟨_, _, rfl, rfl, (Nat.zero_add _).symm.trans hOne⟩

/-- Then what is in flight from a log is in the order of the log, and the
request for it goes on behind. -/
theorem inflight_ordered (hConfig : config.Valid) (hNew : System.new config = ok system)
    (order : IterationOrder)
    (hPlain : ∀ input ∈ inputs, input.2.Plain) (hTidy : ∀ input ∈ inputs, input.2.Tidy)
    (hRun : inputs.foldlM (System.step order) system = ok system') :
    ∀ id client, system'.router.clients.get? id = some client →
      client.outgoing.Ordered ∧
        ∀ request, request ∈ client.tracker.dataRequests ∨
            (id, request) ∈ system'.router.datalog.allWaiters →
          client.outgoing.Behind request := by
  have hGood : system'.Good True := run_good hConfig hNew hPlain (fun _ => hTidy) hRun
  obtain ⟨⟨⟨histories, hSound⟩, _⟩, hFresh⟩ := hGood
  intro id client hClient
  refine ⟨(hSound.clients id client hClient).ordered trivial, fun request hRequest => ?_⟩
  refine hSound.behind trivial id client hClient request (hRequest.imp_right fun hWaits => ?_)
  rw [Router.pending, List.append_assoc]
  exact List.mem_append_left _ hWaits

theorem inflight_ordered_sample :
    ∃ system system' client, System.new Sample.config = ok system ∧
      Sample.inputs.foldlM (System.step Sample.order) system = ok system' ∧
      system'.router.clients.get? 0 = some client ∧ client.outgoing.Ordered :=
  ⟨_, _, _, rfl, rfl, rfl,
    (inflight_ordered Sample.valid rfl Sample.order Sample.plain Sample.tidy rfl 0 _
      rfl).1⟩

/-- The connection stays, or it goes and its client does not come meanwhile, nor
is its session asked for. -/
def Leaves (id : ConnectionId) (clientId : ClientId) : List (Instant × Router.Input) → Prop
  | [] => True
  | gone :: others => (∃ now, gone = (now, .disconnect id)) ∧
      ∀ input ∈ others, input.2.Spares clientId

/-- What is left of a connection is the session of its client, as long as the
client is away. -/
theorem run_leaves (hGood : system.Good tidy) (hAgreed : system.router.Agreed config)
    {id : ConnectionId} {client : Client} (hClient : system.router.clients.get? id = some client)
    (hKept : client.connection.clean = false) {gone : Instant}
    (hSpares : ∀ input ∈ inputs, input.2.Spares client.connection.clientId)
    (hRun : ((gone, .disconnect id) :: inputs).foldlM (System.step order) system = ok system') :
    system'.router.connectionMap client.connection.clientId = none ∧
      system'.router.graveyard client.connection.clientId =
        some (Router.kept client (system.router.requestsOf id client)) := by
  obtain ⟨⟨⟨histories, hSound⟩, _⟩, _⟩ := hGood
  have hOld := hAgreed.clients id client hClient
  rw [List.foldlM_cons] at hRun
  obtain ⟨left, hLeft, hOthers⟩ := bind_eq_ok.mp hRun
  have hResult : left.router = system.router.without id client := by
    have hStep : system.router.step order (gone, .disconnect id) =
        ok (system.router.without id client) := hSound.handleDisconnection_eq hClient
    rw [System.step, hStep, ok_bind, ok.injEq] at hLeft
    rw [← hLeft]
  have hStill : left.router.Agreed config :=
    step_yields (Router.Agreed config) ((hAgreed.step order _).mono fun _ => And.left) left hLeft
  have hAway : left.router.connectionMap client.connection.clientId = none := by
    rw [hResult, ← hOld.owner]
    exact Function.update_self _ _ _
  obtain ⟨hLast, hSaved⟩ := run_away hStill hAway hSpares hOthers
  refine ⟨hLast, hSaved.trans ?_⟩
  rw [hResult, ← hOld.tracked, Router.without, hKept]
  exact Function.update_self _ _ _

/-- The router that a client comes back to has its session, no connection of it
and room for one, whether its connection has gone or goes as it comes. -/
theorem run_comes_back (hGood : system.Good tidy) (hAgreed : system.router.Agreed config)
    {id : ConnectionId} {client : Client} (hClient : system.router.clients.get? id = some client)
    (hKept : client.connection.clean = false) {away : List (Instant × Router.Input)}
    (hLeaves : Leaves id client.connection.clientId away)
    (hAway : away.foldlM (System.step order) system = ok system')
    (hRoom : away ≠ [] → system'.router.clients.count < system'.router.config.maxConnections)
    {builder : LinkBuilder} (hSame : builder.clientId = client.connection.clientId) :
    ∃ router : Router,
      system'.router.handleNewConnection builder.connection =
        router.handleNewConnection builder.connection ∧
      router.connectionMap builder.clientId = none ∧
      router.graveyard builder.clientId =
        some (Router.kept client (system.router.requestsOf id client)) ∧
      router.clients.count < router.config.maxConnections := by
  have hName : builder.connection.clientId = client.connection.clientId := hSame
  cases away with
  | nil =>
      cases hAway
      obtain ⟨⟨⟨histories, hSound⟩, _⟩, _⟩ := hGood
      have hOld := hAgreed.clients id client hClient
      have hAlone : (system.router.without id client).connectionMap builder.clientId = none := by
        rw [hSame, ← hOld.owner]
        exact Function.update_self _ _ _
      refine ⟨system.router.without id client, ?_, hAlone, ?_, ?_⟩
      · refine Router.handleNewConnection_replaces (hName ▸ hOld.valid) ?_
          (hSound.handleDisconnection_eq hClient) hAlone
        exact hName ▸ hAgreed.directory.mapped id client hClient
      · rw [hSame, ← hOld.tracked, Router.without, hKept]
        exact Function.update_self _ _ _
      · have hCount := Slab.count_remove hClient
        exact Nat.lt_of_lt_of_le (Nat.lt_of_succ_le hCount.le)
          (hAgreed.configured ▸ hAgreed.directory.count)
  | cons first others =>
      obtain ⟨⟨gone, rfl⟩, hSpares⟩ := hLeaves
      obtain ⟨hAlone, hSaved⟩ := run_leaves hGood hAgreed hClient hKept hSpares hAway
      exact ⟨system'.router, rfl, hSame ▸ hAlone, hSame ▸ hSaved, hRoom (List.cons_ne_nil _ _)⟩

/-- A client that keeps its session goes on where it has not acknowledged,
whether it comes before its connection goes or after anything that the others
do: each of its subscriptions has a request, which starts behind none of the
messages that were in flight and not behind the place it was at. -/
theorem session_resumes (hConfig : config.Valid) (hNew : System.new config = ok system)
    (order : IterationOrder)
    (hPlain : ∀ input ∈ inputs, input.2.Plain) (hTidy : ∀ input ∈ inputs, input.2.Tidy)
    (hRun : inputs.foldlM (System.step order) system = ok system') (id : ConnectionId)
    {client : Client} (hClient : system'.router.clients.get? id = some client)
    (hKept : client.connection.clean = false) (away : List (Instant × Router.Input))
    (hLeaves : Leaves id client.connection.clientId away) {system'' : System}
    (hAway : away.foldlM (System.step order) system' = ok system'')
    (hRoom : away ≠ [] → system''.router.clients.count < config.maxConnections)
    (builder : LinkBuilder) (hSame : builder.clientId = client.connection.clientId)
    (hStays : builder.cleanSession = false) (now : Instant) :
    ∃ last id' client', system''.step order (now, .connect builder) = ok last ∧
      last.router.connectionMap builder.clientId = some id' ∧
      last.router.clients.get? id' = some client' ∧
      client'.connection.subscriptions = client.connection.subscriptions ∧
      client'.outgoing.unackedPubrels = client.outgoing.unackedPubrels ∧
      client'.tracker.status = .Ready ∧ id' ∈ last.router.readyqueue ∧
      ∀ path ∈ client.connection.subscriptions, ∃ request,
        client'.tracker.dataRequests.filter (fun request => request.filter = path) = [request] ∧
        (∀ entry ∈ client.outgoing.inflightBuffer, ∀ cursor, entry.2.1 = request.filterIdx →
          entry.2.2 = some cursor → request.cursor.2 ≤ cursor.2) ∧
        ∀ old, old ∈ client.tracker.dataRequests ∨
            (id, old) ∈ system'.router.datalog.allWaiters →
          old.filter = path → request.cursor.2 ≤ old.cursor.2 := by
  have hGood : system'.Good True := run_good hConfig hNew hPlain (fun _ => hTidy) hRun
  have hAgreed := run_agreed hNew hRun
  have hValid : Router.validClientId builder.clientId = true :=
    hSame ▸ (hAgreed.clients id client hClient).valid
  have hRoom' : away ≠ [] →
      system''.router.clients.count < system''.router.config.maxConnections :=
    (run_stays_agreed hAgreed hAway).configured ▸ hRoom
  obtain ⟨router, hResult, hAlone, hSaved, hSpace⟩ :=
    run_comes_back hGood hAgreed hClient hKept hLeaves hAway hRoom' hSame
  obtain ⟨⟨⟨histories, hSound⟩, _⟩, hFresh⟩ := hGood
  have hStay : builder.connection.clean = false := hStays
  obtain ⟨last, id', client', hLast, hOwn, hTaken⟩ :=
    Router.handleNewConnection_takesUp hValid hAlone hSpace hStay hSaved rfl
  have hStep : system''.router.step order (now, .connect builder) = ok last := hResult.trans hLast
  refine ⟨_, id', client', congrArg (· >>= _) hStep, ?_, hTaken.there, hTaken.subscriptions,
    hTaken.unackedPubrels, ?_, hTaken.queued, fun path hPath => ?_⟩
  · have hMapped := hTaken.mapped
    rw [hOwn] at hMapped
    exact hMapped
  · rw [hTaken.tracker]
  · rw [hTaken.tracker]
    exact hSound.resumed hFresh hClient hPath

/-- The subscriber of the sample goes, another client comes and sends a message,
and the subscriber comes back. -/
theorem session_resumes_sample :
    ∃ system system' system'' last, ∃ client' : Client, System.new Sample.config = ok system ∧
      (Sample.inputs.take 2).foldlM (System.step Sample.order) system = ok system' ∧
      Sample.meanwhile.foldlM (System.step Sample.order) system' = ok system'' ∧
      system''.step Sample.order (5, .connect (Sample.link 99)) = ok last ∧
      client'.connection.subscriptions = [Sample.filter.path] ∧
      client'.tracker.status = .Ready := by
  have hLeaves : Leaves 0 [99] Sample.meanwhile := by
    refine ⟨⟨2, rfl⟩, fun input hInput => ?_⟩
    rcases List.mem_cons.mp hInput with rfl | hMessage
    · exact fun hSame => by cases hSame
    · exact List.mem_singleton.mp hMessage ▸ trivial
  obtain ⟨last, id, client', hLast, _, _, hSubscriptions, _, hReady, _⟩ :=
    session_resumes Sample.valid rfl Sample.order
      (fun input hInput => Sample.plain input (List.mem_of_mem_take (i := 2) hInput))
      (fun input hInput => Sample.tidy input (List.mem_of_mem_take (i := 2) hInput)) rfl 0 rfl rfl
      Sample.meanwhile hLeaves rfl (fun _ => by decide) (Sample.link 99) rfl rfl 5
  exact ⟨_, _, _, last, client', rfl, rfl, rfl, hLast, hSubscriptions, hReady⟩

end System
end SnapEmu.Broker
