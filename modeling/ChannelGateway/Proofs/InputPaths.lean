import ChannelGateway.Proofs.Startup

/-!
# Two ways to open inputs

An input is opened by the configuration, as a startup channel with all its webhooks at once, or by
calls, one for each webhook. What is open in the end is the same, under which name, of what kind and
where, for any names, addresses and webhooks, also where names repeat or openings fail. Subscribers
are the same but for one thing: a call with an empty URL subscribes nobody, and a startup channel
subscribes the empty URL.

The proof is about directories. Calls for the same input are one opening with all their URLs
(`Directory.enter_enter`), since the later ones find open whatever the first one has opened, and
fail where it has failed. Leaving out empty URLs goes through every opening
(`Directory.named_enter`).

Results:
* `Directory.enterAll_calls`: the calls for a startup channel enter it without its empty URLs.
* **`inputs_alike`**: what is listed after both ways; `inputs_alike_door` is a list for it.
* **`empty_url_subscribed`**: where they differ.
-/

namespace ChannelGateway

/-! ## Calls -/

/-- The requests that calls make one after the other, but for those that are refused at once. -/
def Call.jobs (openTimeout : Nat) (calls : List Call) : List Job :=
  calls.filterMap fun c => (c.job openTimeout).toOption

/-- The URLs that are not empty. -/
def namedUrls (urls : List String) : List String :=
  urls.filter fun url => url ≠ ""

@[simp]
theorem namedUrls_append (urls more : List String) :
    namedUrls (urls ++ more) = namedUrls urls ++ namedUrls more :=
  List.filter_append ..

namespace StartupChannel

variable (openTimeout : Nat) (c : StartupChannel)

/-- The webhooks of the calls that stand for a startup channel: one for each of its own, and one
call without if it has none. -/
def turns : List (Option String) :=
  if c.webhooks = [] then [none] else c.webhooks.map some

/-- The calls that open the input of a startup channel. -/
def calls : List Call :=
  c.turns.map (.digitalIn c.name c.address)

/-- What a call for a startup channel opens and subscribes. -/
def callEntry (webhook : Option String) : Entry :=
  ⟨⟨c.name, .digitalInput, c.address, openTimeout⟩, namedUrls webhook.toList⟩

/-- What the calls for a startup channel open and subscribe. -/
def callEntries : List Entry :=
  c.turns.map (c.callEntry openTimeout)

/-- Together the calls for a startup channel subscribe all its URLs that are not empty. -/
theorem flatten_turns :
    (c.turns.map fun webhook => namedUrls webhook.toList).flatten = namedUrls c.webhooks := by
  unfold turns
  split_ifs with hnone
  · rw [hnone]
    rfl
  · rw [List.map_map]
    induction c.webhooks with
    | nil => rfl
    | cons url rest ih =>
      rw [List.map_cons, List.flatten_cons, ih]
      exact (namedUrls_append [url] rest).symm

/-- The calls for startup channels make the requests of their entries. -/
theorem jobs_calls (channels : List StartupChannel) :
    Call.jobs openTimeout (channels.flatMap calls) =
      (channels.flatMap (callEntries openTimeout)).map Entry.job := by
  have hfirst : ∀ c : StartupChannel, Call.jobs openTimeout c.calls =
      (c.callEntries openTimeout).map Entry.job := by
    intro c
    rw [Call.jobs, calls, List.filterMap_map, callEntries, List.map_map]
    exact congrFun List.filterMap_eq_map c.turns
  induction channels with
  | nil => rfl
  | cons c rest ih =>
    rw [List.flatMap_cons, List.flatMap_cons, List.map_append, ← ih, ← hfirst]
    exact List.filterMap_append

end StartupChannel

/-! ## Empty URLs -/

/-- An entry without its empty URLs. -/
def Entry.named (e : Entry) : Entry :=
  ⟨e.request, namedUrls e.urls⟩

namespace Directory

variable {config : HubConfig}

/-- A directory without empty URLs. -/
def named (d : Directory) : Directory :=
  { d with subscribers := fun name => namedUrls (d.subscribers name) }

/-- **Two openings of a name in a row are one** with all their URLs. -/
theorem enter_enter (d : Directory) (request : OpenRequest) (urls more : List String) :
    (d.enter config ⟨request, urls⟩).enter config ⟨request, more⟩ =
      d.enter config ⟨request, urls ++ more⟩ := by
  by_cases hopens : d.Opens config ⟨request, urls⟩
  · obtain ⟨place, hplace⟩ : ∃ place,
        (d.places request.name).or (some (request.kind, request.address)) = some place := by
      cases d.places request.name <;> exact ⟨_, rfl⟩
    have hfirst : ∀ urls, d.enter config ⟨request, urls⟩ =
        { places := Function.update d.places request.name (some place)
          subscribers := Function.update d.subscribers request.name
            (d.subscribers request.name ++ urls) } := by
      intro urls
      rw [← hplace]
      exact if_pos hopens
    -- the second opening finds the name open
    have hfound : (d.enter config ⟨request, urls⟩).places request.name = some place := by
      rw [hfirst]
      exact Function.update_self ..
    rw [enter_of_open hfound, hfirst, hfirst]
    simp only [Function.update_self, Function.update_idem, List.append_assoc]
  · have hmore : ¬ d.Opens config ⟨request, more⟩ := hopens
    have hboth : ¬ d.Opens config ⟨request, urls ++ more⟩ := hopens
    rw [enter, enter, enter, if_neg hopens, if_neg hmore, if_neg hboth]

/-- Openings of a name in a row are one, if there are any. -/
theorem enterAll_again (d : Directory) (request : OpenRequest) {lists : List (List String)}
    (nonempty : lists ≠ []) :
    d.enterAll config (lists.map (Entry.mk request)) = d.enter config ⟨request, lists.flatten⟩ := by
  obtain ⟨first, more, rfl⟩ := List.exists_cons_of_ne_nil nonempty
  clear nonempty
  induction more generalizing first with
  | nil => simp [enterAll]
  | cons second more ih =>
    have hmerged := ih (first ++ second)
    rw [List.flatten_cons, List.append_assoc, ← List.flatten_cons, ← List.flatten_cons] at hmerged
    rw [← hmerged, enterAll, List.map_cons, List.map_cons, List.foldl_cons, List.foldl_cons,
      enter_enter]
    rfl

/-- Leaving out empty URLs goes through an opening. -/
theorem named_enter (d : Directory) (e : Entry) :
    (d.enter config e).named = d.named.enter config e.named := by
  by_cases hopens : d.Opens config e
  · have hnamed : d.named.Opens config e.named := hopens
    rw [enter, enter, if_pos hopens, if_pos hnamed]
    ext1
    · rfl
    · funext name
      by_cases hname : name = e.request.name
      · subst hname
        simp [named, Entry.named]
      · simp [named, Entry.named, hname]
  · have hnamed : ¬ d.named.Opens config e.named := hopens
    rw [enter, enter, if_neg hopens, if_neg hnamed]

theorem named_enterAll (d : Directory) (entries : List Entry) :
    (d.enterAll config entries).named = d.named.enterAll config (entries.map Entry.named) := by
  induction entries generalizing d with
  | nil => rfl
  | cons e rest ih =>
    rw [List.map_cons, enterAll, List.foldl_cons]
    exact (ih _).trans (by rw [named_enter]; rfl)

/-- **The calls for a startup channel enter it without its empty URLs.** -/
theorem enterAll_calls (d : Directory) (openTimeout : Nat) {c : StartupChannel}
    (input : c.kind = .digitalInput) :
    d.enterAll config (c.callEntries openTimeout) =
      d.enter config (c.entry openTimeout).named := by
  have hentries : c.callEntries openTimeout =
      (c.turns.map fun webhook => namedUrls webhook.toList).map
        (Entry.mk (c.entry openTimeout).request) := by
    rw [List.map_map, StartupChannel.entry, input]
    rfl
  have hturns : c.turns ≠ [] := by
    unfold StartupChannel.turns
    split_ifs with hnone <;> simp [hnone]
  rw [hentries, enterAll_again d _ (by simpa using hturns), c.flatten_turns]
  rfl

/-- The calls for startup channels enter them without their empty URLs. -/
theorem enterAll_allCalls (d : Directory) (openTimeout : Nat) {channels : List StartupChannel}
    (inputs : ∀ c ∈ channels, c.kind = .digitalInput) :
    d.enterAll config (channels.flatMap (StartupChannel.callEntries openTimeout)) =
      d.enterAll config ((channels.map (StartupChannel.entry openTimeout)).map Entry.named) := by
  induction channels generalizing d with
  | nil => rfl
  | cons c rest ih =>
    obtain ⟨hfirst, hrest⟩ := List.forall_mem_cons.mp inputs
    rw [List.flatMap_cons, enterAll, List.foldl_append, List.map_cons, List.map_cons]
    exact (ih _ hrest).trans (by rw [← enterAll, enterAll_calls d openTimeout hfirst]; rfl)

end Directory

/-! ## Both ways -/

/-- Without empty URLs there is nothing to leave out. -/
theorem GatewayConfig.named_entries {config : GatewayConfig}
    (named : ∀ c ∈ config.channels, "" ∉ c.webhooks) :
    config.entries.map Entry.named = config.entries := by
  refine (List.map_congr_left fun e he => ?_).trans (List.map_id _)
  obtain ⟨c, hc, rfl⟩ := List.mem_map.mp he
  have hurls : namedUrls c.webhooks = c.webhooks := by
    rw [namedUrls, List.filter_eq_self]
    intro url hurl
    simpa using ne_of_mem_of_not_mem hurl (named c hc)
  unfold Entry.named StartupChannel.entry
  rw [hurls]
  rfl

/-- **Two ways to open inputs.** On a hub without injected faults, startup channels that are inputs
are opened by the configuration, or by calls, while nobody else is served. Both end some time. When
both have ended, the same names are open, as the same kinds and at the same addresses, and who is
subscribed by the calls is who is subscribed by the configuration under a URL that is not empty. -/
theorem inputs_alike (config : GatewayConfig) (faultless : config.hardware.hub.IsFaultless)
    (inputs : ∀ c ∈ config.channels, c.kind = .digitalInput) (seed : UInt64) (ticket : Nat)
    (moves others : List Move) (solo : ∀ m ∈ moves, m.IsSolo ticket)
    (solo' : ∀ m ∈ others, m.IsSolo ticket) :
    let start := Traffic.ofGateway (.ofConfig config (.ofConfig config.hardware.hub seed))
    let jobs := start.gateway.startupJobs
    let requests := Call.jobs start.gateway.openTimeout
      (config.channels.flatMap StartupChannel.calls)
    let configured := (start.arrive ticket jobs).run moves
    let called := (start.arrive ticket requests).run others
    (∃ more outcomes, (∀ m ∈ more, m.IsSolo ticket) ∧
        (configured.run more).ended? ticket jobs = some outcomes) ∧
      (∃ more outcomes, (∀ m ∈ more, m.IsSolo ticket) ∧
        (called.run more).ended? ticket requests = some outcomes) ∧
      ∀ outcomes outcomes', configured.ended? ticket jobs = some outcomes →
        called.ended? ticket requests = some outcomes' →
          called.gateway.directory = configured.gateway.directory.named ∧
            ((∀ c ∈ config.channels, "" ∉ c.webhooks) →
              called.gateway.directory = configured.gateway.directory) := by
  intro start jobs requests configured called
  let entries : List Entry :=
    config.channels.flatMap (StartupChannel.callEntries start.gateway.openTimeout)
  have hjobs : jobs = config.entries.map Entry.job := by
    rw [GatewayConfig.entries, List.map_map]
    rfl
  have hrequests : requests = entries.map Entry.job := StartupChannel.jobs_calls ..
  obtain ⟨hends, hended⟩ :=
    Traffic.entered_in_order config faultless seed ticket config.entries solo
  obtain ⟨hends', hended'⟩ := Traffic.entered_in_order config faultless seed ticket entries solo'
  rw [← hjobs] at hends hended
  rw [← hrequests] at hends' hended'
  refine ⟨hends, hends', fun outcomes outcomes' houtcomes houtcomes' => ?_⟩
  have hcalled : called.gateway.directory =
      Directory.empty.enterAll config.hardware.hub (config.entries.map Entry.named) :=
    (hended' outcomes' houtcomes').1.trans (Directory.enterAll_allCalls _ _ inputs)
  have hconfigured : configured.gateway.directory =
      Directory.empty.enterAll config.hardware.hub config.entries := (hended outcomes houtcomes).1
  refine ⟨?_, fun named => ?_⟩
  · rw [hcalled, hconfigured, Directory.named_enterAll]
    rfl
  · rw [hcalled, hconfigured, GatewayConfig.named_entries named]

/-- A door with three webhooks, a gate that the hub does not have, and the door again under another
address. -/
theorem inputs_alike_door :
    let config : GatewayConfig :=
      { channels := [⟨"door", .digitalInput, ⟨0, 0⟩, ["http://b", "http://a", "http://b"]⟩,
          ⟨"gate", .digitalInput, ⟨0, 40⟩, ["http://a"]⟩, ⟨"door", .digitalInput, ⟨1, 0⟩, []⟩] }
    let moves : List Move := List.replicate 10 (.advance 0 fun _ => false)
    let start := Traffic.ofGateway (.ofConfig config (.ofConfig config.hardware.hub 0))
    let requests := Call.jobs start.gateway.openTimeout
      (config.channels.flatMap StartupChannel.calls)
    let configured := (start.arrive 0 start.gateway.startupJobs).run moves
    let called := (start.arrive 0 requests).run moves
    config.hardware.hub.IsFaultless ∧ (∀ c ∈ config.channels, c.kind = .digitalInput) ∧
      (∀ m ∈ moves, m.IsSolo 0) ∧ called.gateway.directory = configured.gateway.directory ∧
      called.gateway.subscriptions.listFor "door" = ["http://b", "http://a", "http://b"] := by
  intro config moves start requests configured called
  have faultless : config.hardware.hub.IsFaultless := by decide +kernel
  have inputs : ∀ c ∈ config.channels, c.kind = .digitalInput := by decide +kernel
  have solo : ∀ m ∈ moves, m.IsSolo 0 := by
    intro m hm
    rw [List.eq_of_mem_replicate hm]
    exact ⟨fun _ => false, rfl, rfl⟩
  have named : ∀ c ∈ config.channels, "" ∉ c.webhooks := by decide +kernel
  have hsome : (configured.ended? 0 start.gateway.startupJobs).isSome = true := by decide +kernel
  have hsome' : (called.ended? 0 requests).isSome = true := by decide +kernel
  obtain ⟨outcomes, houtcomes⟩ := Option.isSome_iff_exists.mp hsome
  obtain ⟨outcomes', houtcomes'⟩ := Option.isSome_iff_exists.mp hsome'
  obtain ⟨-, -, halike⟩ := inputs_alike config faultless inputs 0 0 moves moves solo solo
  exact ⟨faultless, inputs, solo, (halike outcomes outcomes' houtcomes houtcomes').2 named,
    by decide +kernel⟩

/-- **An empty URL is subscribed by the configuration and not by a call.** -/
theorem empty_url_subscribed :
    let config : GatewayConfig := { channels := [⟨"door", .digitalInput, ⟨0, 0⟩, [""]⟩] }
    let go : Move := .advance 0 fun _ => false
    let start := Traffic.ofGateway (.ofConfig config (.ofConfig config.hardware.hub 0))
    let requests := Call.jobs start.gateway.openTimeout
      (config.channels.flatMap StartupChannel.calls)
    let configured := (start.arrive 0 start.gateway.startupJobs).run [go]
    let called := (start.arrive 0 requests).run [go]
    config.hardware.hub.IsFaultless ∧ (∀ c ∈ config.channels, c.kind = .digitalInput) ∧
      (configured.ended? 0 start.gateway.startupJobs).isSome = true ∧
      (called.ended? 0 requests).isSome = true ∧
      configured.gateway.subscriptions.listFor "door" = [""] ∧
      called.gateway.subscriptions.listFor "door" = [] := by
  intro config go start requests configured called
  exact ⟨by decide +kernel, by decide +kernel, by decide +kernel, by decide +kernel,
    by decide +kernel, by decide +kernel⟩

end ChannelGateway
