import ChainDash.Notify.Options
import ChainDash.Notify.QuietHours

/-!
# Who gets which message

Every chat named in the options gets the messages of a notifier call, each once and in the same
order, whatever the other calls do in between; nobody else gets any (`delivered_to_every_chat`).
-/

namespace ChainDash.Notify
set_option autoImplicit false

/-- What a decision says, to every chat. -/
def messages (config : TelegramConfig) (request : SendRequest) :
    Option SendDecision → List (Content × String)
  | some (.send quietSummary) =>
    (quietSummary.map fun summary =>
      (Content.quietSummary, config.templates.renderQuietSummaryMessage summary)).toList ++
        [(.own request.event, request.message)]
  | _ => []

/-- The call that decides in a step, and what it says. -/
def decides (config : TelegramConfig) : World × Event → Option (Nat × List (Content × String))
  | (world, .decide index minute now) =>
    match world.calls[index]? with
    | some (.deciding request) =>
      some (index, messages config request (sendIfEnabled config world.state request minute now).1)
    | _ => none
  | _ => none

/-- The calls of a run that have decided. -/
def decidedCalls (config : TelegramConfig) (events : List Event) :
    List (Nat × List (Content × String)) :=
  (Lts.visited (World.step config) {} events).filterMap (decides config)

def Outgoing.message (out : Outgoing) : Content × String := (out.content, out.text)

/-- What is to go to a chat. -/
def forChat (chatId : String) (queue : List Outgoing) : List (Content × String) :=
  (queue.filter (·.chatId = chatId)).map Outgoing.message

/-- What a call has posted so far. -/
def postedBy (world : World) (index : Nat) : List Outgoing :=
  (world.posts.filter (·.call = index)).map (·.outgoing)

variable {config : TelegramConfig} {world world' : World} {event : Event} {events : List Event}

theorem forChat_append (chatId : String) (queue queue' : List Outgoing) :
    forChat chatId (queue ++ queue') = forChat chatId queue ++ forChat chatId queue' := by
  simp [forChat]

theorem forChat_sendMessage {chatId : String} (distinct : config.chatIds.Nodup)
    (named : chatId ∈ config.chatIds) (content : Content) (text : String) :
    forChat chatId (sendMessage config content text) = [(content, text)] := by
  unfold forChat sendMessage
  rw [List.filter_map]
  have one : config.chatIds.filter (fun id => decide (id = chatId)) = [chatId] := by
    rw [List.filter_eq, List.count_eq_one_of_mem distinct named]
    rfl
  have same : ((fun out : Outgoing => decide (out.chatId = chatId)) ∘ fun chatId =>
      (⟨content, config.sendMessageUrl, chatId, text⟩ : Outgoing)) =
        fun id => decide (id = chatId) := rfl
  rw [same, one]
  rfl

/-- Every chat is sent the messages of the decision. -/
theorem forChat_outgoing {chatId : String} (distinct : config.chatIds.Nodup)
    (named : chatId ∈ config.chatIds) (request : SendRequest) (decision : SendDecision) :
    forChat chatId (outgoing config request decision) = messages config request (some decision) := by
  cases decision with
  | suppressedByRateLimit | suppressedByQuietHours => rfl
  | send quietSummary =>
    unfold outgoing
    rw [forChat_append, forChat_sendMessage distinct named]
    cases quietSummary with
    | none => rfl
    | some summary =>
      rw [forChat_sendMessage distinct named]
      rfl

theorem chatId_of_mem_outgoing {request : SendRequest} {decision : SendDecision} {out : Outgoing}
    (mem : out ∈ outgoing config request decision) : out.chatId ∈ config.chatIds := by
  have sent : ∀ content text, out ∈ sendMessage config content text → out.chatId ∈ config.chatIds := by
    intro content text mem
    obtain ⟨chatId, named, rfl⟩ := List.mem_map.mp mem
    exact named
  cases decision with
  | suppressedByRateLimit | suppressedByQuietHours => cases mem
  | send quietSummary =>
    rcases List.mem_append.mp mem with summary | own
    · cases quietSummary with
      | none => cases summary
      | some summary' => exact sent _ _ summary
    · exact sent _ _ own

/-- What a call that has decided has posted and has still to post is what it says; the other
calls have posted nothing. -/
structure DeliveryInv (config : TelegramConfig) (events : List Event) (world : World) : Prop where
  decided : ∀ index said, (index, said) ∈ decidedCalls config events → ∃ decidedAt queue,
    world.calls[index]? = some (.posting decidedAt queue) ∧ ∀ chatId ∈ config.chatIds,
      forChat chatId (postedBy world index) ++ forChat chatId queue = said
  posting : ∀ (index : Nat) decidedAt queue, world.calls[index]? = some (.posting decidedAt queue) →
    (∃ said, (index, said) ∈ decidedCalls config events) ∧ ∀ out ∈ queue, out.chatId ∈ config.chatIds
  posted : ∀ posted ∈ world.posts, posted.outgoing.chatId ∈ config.chatIds ∧
    ∃ decidedAt queue, world.calls[posted.call]? = some (Call.posting decidedAt queue)

theorem decidedCalls_snoc (ran : World.run config events = some world) (event : Event) :
    decidedCalls config (events ++ [event]) =
      decidedCalls config events ++ (decides config (world, event)).toList := by
  unfold decidedCalls
  rw [Lts.visited_snoc event ran, List.filterMap_append]
  cases decided : decides config (world, event) <;> simp [decided]

/-- A step that only changes the state, or starts a call. -/
theorem DeliveryInv.quiet (inv : DeliveryInv config events world)
    (ran : World.run config events = some world)
    (none_ : decides config (world, event) = none) (posts : world'.posts = world.posts)
    (kept : ∀ (index : Nat) decidedAt queue, world'.calls[index]? = some (.posting decidedAt queue) ↔
      world.calls[index]? = some (.posting decidedAt queue)) :
    DeliveryInv config (events ++ [event]) world' := by
  have same : decidedCalls config (events ++ [event]) = decidedCalls config events := by
    rw [decidedCalls_snoc ran, none_, Option.toList_none, List.append_nil]
  constructor
  · rw [same]
    intro index said mem
    obtain ⟨decidedAt, queue, at_, all⟩ := inv.decided index said mem
    refine ⟨decidedAt, queue, (kept _ _ _).mpr at_, ?_⟩
    unfold postedBy
    rw [posts]
    exact all
  · rw [same]
    intro index decidedAt queue at_
    exact inv.posting index decidedAt queue ((kept _ _ _).mp at_)
  · rw [posts]
    intro posted mem
    obtain ⟨named, decidedAt, queue, at_⟩ := inv.posted posted mem
    exact ⟨named, decidedAt, queue, (kept _ _ _).mpr at_⟩

/-- A call decides what to post. -/
theorem DeliveryInv.decide (inv : DeliveryInv config events world)
    (ran : World.run config events = some world)
    {index minute : Nat} {request : SendRequest} {queue : List Outgoing} (said : List (Content × String))
    (at_ : world.calls[index]? = some (.deciding request))
    (decides_ : decides config (world, event) = some (index, said))
    (all : ∀ chatId ∈ config.chatIds, forChat chatId queue = said)
    (named : ∀ out ∈ queue, out.chatId ∈ config.chatIds)
    (calls : world'.calls = world.calls.set index (.posting minute queue))
    (posts : world'.posts = world.posts) : DeliveryInv config (events ++ [event]) world' := by
  have grown : decidedCalls config (events ++ [event]) =
      decidedCalls config events ++ [(index, said)] := by
    rw [decidedCalls_snoc ran, decides_, Option.toList_some]
  have bound := (List.getElem?_eq_some_iff.mp at_).1
  have here : world'.calls[index]? = some (.posting minute queue) := by
    rw [calls, List.getElem?_set_self bound]
  have others : ∀ other, other ≠ index → world'.calls[other]? = world.calls[other]? := by
    intro other ne
    rw [calls, List.getElem?_set_ne (Ne.symm ne)]
  have before : ∀ posted ∈ world.posts, posted.call ≠ index := by
    rintro posted mem rfl
    obtain ⟨-, decidedAt, queue, posting⟩ := inv.posted posted mem
    rw [at_] at posting
    cases posting
  constructor
  · rw [grown]
    intro other said' mem
    rcases List.mem_append.mp mem with old | new
    · obtain ⟨decidedAt, queue', posting, same⟩ := inv.decided other said' old
      have ne : other ≠ index := by
        rintro rfl
        rw [at_] at posting
        cases posting
      refine ⟨decidedAt, queue', (others other ne).trans posting, ?_⟩
      unfold postedBy
      rw [posts]
      exact same
    · cases List.mem_singleton.mp new
      refine ⟨minute, queue, here, fun chatId inside => ?_⟩
      have nothing : postedBy world' index = [] := by
        unfold postedBy
        rw [posts, List.map_eq_nil_iff, List.filter_eq_nil_iff]
        intro posted mem
        simpa using before posted mem
      rw [nothing, all chatId inside]
      rfl
  · rw [grown]
    intro other decidedAt queue' posting
    by_cases ne : other = index
    · subst ne
      rw [here] at posting
      cases posting
      exact ⟨⟨said, by simp⟩, named⟩
    · rw [others other ne] at posting
      obtain ⟨⟨said', mem⟩, named'⟩ := inv.posting other decidedAt queue' posting
      exact ⟨⟨said', List.mem_append_left _ mem⟩, named'⟩
  · rw [posts]
    intro posted mem
    rw [others posted.call (before posted mem)]
    exact inv.posted posted mem

/-- A call posts the next message. -/
theorem DeliveryInv.post (inv : DeliveryInv config events world)
    (ran : World.run config events = some world)
    {index minute decidedAt : Nat} {out : Outgoing} {queue : List Outgoing}
    (at_ : world.calls[index]? = some (.posting decidedAt (out :: queue))) :
    DeliveryInv config (events ++ [.post index minute]) { world with
      calls := world.calls.set index (.posting decidedAt queue)
      posts := world.posts ++ [⟨index, decidedAt, minute, out⟩] } := by
  have same : decidedCalls config (events ++ [.post index minute]) = decidedCalls config events := by
    rw [decidedCalls_snoc ran]
    exact List.append_nil _
  have bound := (List.getElem?_eq_some_iff.mp at_).1
  obtain ⟨said, named⟩ := inv.posting index decidedAt (out :: queue) at_
  constructor
  · rw [same]
    intro other said mem
    obtain ⟨decidedAt', queue', posting, all⟩ := inv.decided other said mem
    by_cases ne : other = index
    · subst ne
      rw [at_] at posting
      cases posting
      refine ⟨decidedAt, queue, List.getElem?_set_self bound, fun chatId inside => ?_⟩
      have posted : postedBy { world with
          calls := world.calls.set other (.posting decidedAt queue)
          posts := world.posts ++ [⟨other, decidedAt, minute, out⟩] } other =
          postedBy world other ++ [out] := by
        simp [postedBy]
      rw [posted, forChat_append, List.append_assoc, ← forChat_append]
      exact all chatId inside
    · refine ⟨decidedAt', queue', ?_, ?_⟩
      · exact (List.getElem?_set_ne (Ne.symm ne)).trans posting
      · have posted : postedBy { world with
            calls := world.calls.set index (.posting decidedAt queue)
            posts := world.posts ++ [⟨index, decidedAt, minute, out⟩] } other =
              postedBy world other := by
          simp [postedBy, Ne.symm ne]
        rw [posted]
        exact all
  · rw [same]
    intro other decidedAt' queue' posting
    by_cases ne : other = index
    · subst ne
      have here : (world.calls.set other (.posting decidedAt queue))[other]? = _ :=
        List.getElem?_set_self bound
      cases here.symm.trans posting
      exact ⟨said, fun next mem => named next (List.mem_cons_of_mem _ mem)⟩
    · have before : world.calls[other]? = some (.posting decidedAt' queue') :=
        (List.getElem?_set_ne (Ne.symm ne)).symm.trans posting
      exact inv.posting other decidedAt' queue' before
  · intro posted mem
    have there : ∀ (other : Nat) decidedAt' queue',
        world.calls[other]? = some (Call.posting decidedAt' queue') →
        ∃ decidedAt' queue', (world.calls.set index (.posting decidedAt queue))[other]? =
          some (Call.posting decidedAt' queue') := by
      intro other decidedAt' queue' posting
      by_cases ne : other = index
      · subst ne
        exact ⟨_, _, List.getElem?_set_self bound⟩
      · exact ⟨_, _, (List.getElem?_set_ne (Ne.symm ne)).trans posting⟩
    rcases List.mem_append.mp mem with old | new
    · obtain ⟨inside, decidedAt', queue', posting⟩ := inv.posted posted old
      exact ⟨inside, there _ _ _ posting⟩
    · cases List.mem_singleton.mp new
      exact ⟨named out (by simp), there _ _ _ at_⟩

theorem deliveryInv_step (distinct : config.chatIds.Nodup) (inv : DeliveryInv config events world)
    (ran : World.run config events = some world) (stepped : world.step config event = some world') :
    DeliveryInv config (events ++ [event]) world' := by
  rcases World.step_cases stepped with ⟨call, state, rfl, -, rfl⟩ | ⟨call, request, state, rfl, -, rfl⟩ |
    ⟨index, minute, now, request, rfl, at_, filtered, rfl⟩ |
    ⟨index, minute, now, request, decision, state, rfl, at_, allowed, decided, rfl⟩ |
    ⟨index, minute, decidedAt, out, queue, rfl, at_, rfl⟩
  · exact inv.quiet ran rfl rfl fun _ _ _ => Iff.rfl
  · refine inv.quiet ran rfl rfl fun index decidedAt queue => ⟨posting_of_append, fun posting => ?_⟩
    exact (List.getElem?_append_left (List.getElem?_eq_some_iff.mp posting).1).trans posting
  · refine inv.decide ran [] at_ ?_ (fun _ _ => rfl) (by simp) rfl rfl
    simp [decides, at_, sendIfEnabled, filtered, messages]
  · refine inv.decide ran (messages config request (some decision)) at_ ?_
      (fun chatId named => forChat_outgoing distinct named request decision)
      (fun out mem => chatId_of_mem_outgoing mem) rfl rfl
    simp [decides, at_, sendIfEnabled, allowed, decided]
  · exact inv.post ran at_

/-- With a notifier made from the options, in every run: a call that has posted all has sent every
chat named in the options just what it had to say, once and in order, and what is posted goes to
these chats only, from calls that have decided. -/
theorem delivered_to_every_chat {opts : TelegramOpts}
    (configured : TelegramConfig.fromOpts opts = .ok (some config))
    (ran : World.run config events = some world) :
    (∀ posted ∈ world.posts, Named opts posted.outgoing.chatId ∧
      ∃ said, (posted.call, said) ∈ decidedCalls config events) ∧
    ∀ index said, (index, said) ∈ decidedCalls config events → ∀ decidedAt,
      world.calls[index]? = some (.posting decidedAt []) →
      ∀ chatId, Named opts chatId → forChat chatId (postedBy world index) = said := by
  obtain ⟨distinct, named⟩ := chatIds_fromOpts configured
  have init : DeliveryInv config [] {} := ⟨nofun, nofun, nofun⟩
  have inv : DeliveryInv config events world := by
    refine Lts.run_invariant_reached init ?_ ran
    intro events before event after ran inv stepped
    exact deliveryInv_step distinct inv ran stepped
  constructor
  · intro posted mem
    obtain ⟨inside, decidedAt, queue, posting⟩ := inv.posted posted mem
    exact ⟨(named _).mp inside, (inv.posting _ _ _ posting).1⟩
  · intro index said mem decidedAt posting chatId inside
    obtain ⟨decidedAt', queue, posting', all⟩ := inv.decided index said mem
    rw [posting] at posting'
    cases posting'
    simpa [forChat] using all chatId ((named chatId).mpr inside)

/-- Two chats, one of them named twice, and a token. -/
def twoChats : TelegramOpts where
  telegramBotToken := some "bot-token"
  telegramChatId := ["10001", " 10002", "10001 ", ""]
  telegramTemplateConnectionFailed := some "down: \x7bnode\x7d"

/-- The posts of two calls take turns. -/
def twoCalls : List Event :=
  [.observe (.nodeConnectionFailed "a" "ws://a" "timed out"), .decide 0 600 0, .post 0 600,
    .observe (.nodeConnectionFailed "b" "ws://b" "timed out"), .decide 1 600 1, .post 1 600, .post 0 600,
    .post 1 600]

theorem delivered_to_every_chat_twoCalls :
    ∃ config world, TelegramConfig.fromOpts twoChats = .ok (some config) ∧
    World.run config twoCalls = some world ∧
    ∀ chatId, Named twoChats chatId → (forChat chatId (postedBy world 1)).length = 1 := by
  have ran : ∃ config world, TelegramConfig.fromOpts twoChats = .ok (some config) ∧
      World.run config twoCalls = some world ∧ world.calls[1]? = some (.posting 600 []) ∧
      ∃ said, (1, said) ∈ decidedCalls config twoCalls ∧ said.length = 1 :=
    ⟨_, _, rfl, rfl, rfl, _, List.mem_of_getElem? (i := 1) rfl, rfl⟩
  obtain ⟨config, world, configured, ran, posting, said, mem, one⟩ := ran
  refine ⟨config, world, configured, ran, fun chatId named => ?_⟩
  rw [(delivered_to_every_chat configured ran).2 1 said mem 600 posting chatId named, one]

end ChainDash.Notify
