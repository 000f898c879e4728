import ChainDash.Lib.Mealy
import ChainDash.Notify.Outages

/-!
# Ranking changes

Notifier calls one after the other, the rankings of any number of nodes among them. A
ranking change is delivered when its call decides to send; with no rate limit and no quiet
hours the changes delivered for a node lead from its first known rank to its last one,
each from where the one before it led (`rankings_chained`).
-/

namespace ChainDash.Notify
set_option autoImplicit false

/-- A notifier call at the instant `now` and at `minute` of the local day. -/
structure TimedCall where
  call : NotifierCall
  minute : Nat
  now : Nat

/-- The call executed to its end. -/
def TimedCall.step (config : TelegramConfig) (state : NotificationState) (timed : TimedCall) :
    Option NotificationState :=
  some (notify config state timed.call timed.minute timed.now).2

/-- A ranking change that was decided to be sent, and the requests that follow. -/
structure Delivered where
  nodeName : String
  change : RankingChange
  messages : List Outgoing

/-- The ranking change that a call delivers. -/
def TimedCall.delivered (config : TelegramConfig) (state : NotificationState) (timed : TimedCall) :
    Option Delivered :=
  match timed.call with
  | .nodeRankingChange nodeId nodeName ranking =>
    match (state.planRankingChange nodeId ranking).1, (timed.call.observe config.templates state).1,
        (notify config state timed.call timed.minute timed.now).1 with
    | some change, some request, some (.send quietSummary) =>
      some { nodeName, change, messages := outgoing config request (.send quietSummary) }
    | _, _, _ => none
  | _ => none

/-- The node and the rank of a ranking observation. -/
def TimedCall.ranking (timed : TimedCall) : Option (String × Int) :=
  match timed.call with
  | .nodeRankingChange nodeId _ ranking => some (nodeId, ranking)
  | _ => none

def known (ranking : Int) : Option Int := if 0 < ranking then some ranking else none

/-- The positive ranks observed for a node, in order. -/
def knownRanks (nodeId : String) (calls : List TimedCall) : List Int :=
  (Mealy.inputsFor TimedCall.ranking nodeId calls).filterMap known

/-- What is delivered for a node, from the state of a new notifier on. -/
def deliveredFor (config : TelegramConfig) (nodeId : String) (calls : List TimedCall) :
    List Delivered :=
  Mealy.outputsFor (TimedCall.step config) (fun state timed => timed.delivered config state)
    TimedCall.ranking nodeId {} calls

/-- Changes that lead without a gap from the first of the ranks to the last. -/
structure UnbrokenChain (ranks : List Int) (changes : List RankingChange) : Prop where
  first : ∀ change ∈ changes.head?, ranks.head? = some change.previous
  linked : changes.IsChain fun a b => b.previous = a.current
  moved : ∀ change ∈ changes, change.previous ≠ change.current
  positive : ∀ change ∈ changes, 0 < change.previous ∧ 0 < change.current
  last : ranks.getLast? = (changes.getLast?.map (·.current)).or ranks.head?

def RankingChange.ranks (change : RankingChange) : Int × Int := (change.previous, change.current)

/-- The messages announce the change to every chat, after a buffered summary if there is one. -/
def Delivered.Announced (config : TelegramConfig) (delivered : Delivered) : Prop :=
  sendMessage config (.own .rankingChanged)
    (config.templates.renderRankingChangedMessage delivered.nodeName delivered.change) <:+
      delivered.messages

/-! ## One call -/

namespace NotificationState

/-- The last known rank of a node. -/
def knownRank (state : NotificationState) (nodeId : String) : Option Int :=
  (state.lastRankings.lookup nodeId).filter (0 < ·)

variable (state : NotificationState)

theorem knownRank_congr {state state' : NotificationState}
    (same : state'.lastRankings = state.lastRankings) : state'.knownRank = state.knownRank := by
  funext nodeId
  rw [knownRank, knownRank, same]

theorem planRankingChange_knownRank (nodeId nodeId' : String) (ranking : Int) :
    (state.planRankingChange nodeId ranking).2.knownRank nodeId' =
      if nodeId = nodeId' then (known ranking).or (state.knownRank nodeId)
      else state.knownRank nodeId' := by
  unfold planRankingChange known knownRank
  by_cases positive : 0 < ranking
  · rw [if_neg (by omega), if_pos positive]
    by_cases same : nodeId = nodeId'
    · simp [same, positive]
    · simp [same, Ne.symm same]
  · rw [if_pos (by omega), if_neg positive]
    split
    case isTrue same => rw [same, Option.none_or]
    case isFalse => rfl

/-- A change is reported as the detector of changed values reports it. -/
theorem planRankingChange_change (nodeId : String) (ranking : Int) :
    (state.planRankingChange nodeId ranking).1.map RankingChange.ranks =
      (Mealy.change known (state.knownRank nodeId) ranking).1 := by
  unfold planRankingChange Mealy.change known
  by_cases positive : 0 < ranking
  · rw [if_neg (by omega), if_pos positive]
    change _ = Option.map _ ((state.knownRank nodeId).filter _)
    unfold knownRank
    cases (state.lastRankings.lookup nodeId).filter (0 < ·) with
    | none => rfl
    | some previous =>
      by_cases same : previous = ranking <;> simp [same, Option.filter, RankingChange.ranks]
  · rw [if_pos (by omega), if_neg positive]
    rfl

end NotificationState

/-- What is decided about a call does not touch the known ranks. -/
theorem notify_knownRank (config : TelegramConfig) (state : NotificationState) (call : NotifierCall)
    (minute now : Nat) : (notify config state call minute now).2.knownRank =
      (call.observe config.templates state).2.knownRank := by
  apply NotificationState.knownRank_congr
  unfold notify
  cases call.observe config.templates state with
  | mk request after =>
    cases request with
    | none => rfl
    | some request =>
      dsimp only
      unfold sendIfEnabled
      split
      · obtain ⟨lastSentAt, quietSummary, frame⟩ := after.decideSend_frame config.rateLimit now request
          (config.isQuietTimeAt minute)
        simp only [frame]
      · rfl

/-! ## A sequence of calls -/

theorem pos_of_mem_known {ranks : List Int} {rank : Int} (mem : rank ∈ ranks.filterMap known) :
    0 < rank := by
  obtain ⟨_, -, kept⟩ := List.mem_filterMap.mp mem
  unfold known at kept
  split at kept
  case isTrue positive => exact Option.some.inj kept ▸ positive
  case isFalse => cases kept

/-- The changes that a detector reports form an unbroken chain. -/
theorem unbrokenChain_of_changes {ranks : List Int} {changes : List RankingChange}
    (reported : changes.map RankingChange.ranks = Mealy.emitted (Mealy.change known) none ranks) :
    UnbrokenChain (ranks.filterMap known) changes := by
  have inside : ∀ change ∈ changes, change.previous ∈ ranks.filterMap known ∧
      change.current ∈ ranks.filterMap known := by
    intro change mem
    have pair : change.ranks ∈ changes.map RankingChange.ranks := List.mem_map_of_mem mem
    rw [reported] at pair
    simpa [RankingChange.ranks] using Mealy.mem_changes pair
  have positive : ∀ change ∈ changes, 0 < change.previous ∧ 0 < change.current :=
    fun change mem => (inside change mem).imp pos_of_mem_known pos_of_mem_known
  cases values : ranks.filterMap known with
  | nil =>
    rw [Mealy.changes_eq_nil values, List.map_eq_nil_iff] at reported
    subst reported
    exact ⟨by simp, .nil, by simp, by simp, rfl⟩
  | cons first rest =>
    have path := Mealy.path_changes values
    rw [← reported] at path
    refine ⟨?_, (List.isChain_map _).mp path.linked, ?_, positive, ?_⟩
    · intro change head
      have start := path.head change.ranks (by rw [List.head?_map, head]; rfl)
      exact congrArg some start.symm
    · intro change mem
      exact path.moved change.ranks (List.mem_map_of_mem mem)
    · have last := path.last
      rw [List.getLast?_cons, ← last, List.getLast?_map, Option.map_map]
      cases changes.getLast? <;> rfl

section Loud

variable {config : TelegramConfig} (noLimit : config.rateLimit = 0)
  (noQuiet : config.quietHours = none)
  (enabled : config.enabledEvents.allows .rankingChanged = true)

include noLimit noQuiet enabled

/-- Without a rate limit and quiet hours every change that is reported is sent. -/
theorem delivered_eq (state : NotificationState) (nodeId nodeName : String) (ranking : Int)
    (minute now : Nat) :
    ∃ messages : RankingChange → List Outgoing,
      (∀ change, Delivered.Announced config ⟨nodeName, change, messages change⟩) ∧
      TimedCall.delivered config state ⟨.nodeRankingChange nodeId nodeName ranking, minute, now⟩ =
        (state.planRankingChange nodeId ranking).1.map fun change =>
          ⟨nodeName, change, messages change⟩ := by
  have allowed (after : NotificationState) (key : String) :
      after.allowDelivery key now config.rateLimit = (true, after) := by
    rw [NotificationState.allowDelivery, if_pos noLimit]
  cases planned : state.planRankingChange nodeId ranking with
  | mk change after =>
    refine ⟨fun change => outgoing config {
      event := .rankingChanged
      rateLimitKey := "ranking-changed:" ++ nodeId
      summarySubject := displayNodeName nodeName
      message := config.templates.renderRankingChangedMessage nodeName change
      } (.send after.takeQuietSummarySnapshot.1), ?_, ?_⟩
    · intro change
      exact List.suffix_append _ _
    · simp only [TimedCall.delivered, notify, NotifierCall.observe, planned]
      cases change with
      | none => rfl
      | some change =>
        simp only [Option.map_some]
        rw [sendIfEnabled_loud noQuiet _ _ enabled, allowed, if_pos rfl]

/-- For each node the delivered changes are those of a detector of changed values. -/
theorem rankings_perKey :
    Mealy.PerKey (TimedCall.step config)
      (fun state timed => (timed.delivered config state).map (·.change.ranks))
      TimedCall.ranking (fun state nodeId => state.knownRank nodeId) (Mealy.change known) where
  own state timed after nodeId ranking stepped carries := by
    obtain rfl := Option.some.inj stepped
    obtain ⟨call, minute, now⟩ := timed
    cases call with
    | nodeRankingChange id nodeName rank =>
      obtain ⟨rfl, rfl⟩ := Prod.mk.inj (Option.some.inj carries)
      obtain ⟨messages, -, delivers⟩ :=
        delivered_eq noLimit noQuiet enabled state id nodeName rank minute now
      simp only [delivers, Option.map_map, Function.comp_def, state.planRankingChange_change,
        notify_knownRank]
      apply Prod.ext
      · rfl
      · rw [Mealy.change_snd]
        exact ((state.planRankingChange_knownRank id id rank).trans (if_pos rfl)).symm
    | _ => cases carries
  others state timed after nodeId stepped other := by
    obtain rfl := Option.some.inj stepped
    obtain ⟨call, minute, now⟩ := timed
    simp only [notify_knownRank]
    cases call with
    | nodeRankingChange id nodeName rank =>
      refine (state.planRankingChange_knownRank id nodeId rank).trans (if_neg ?_)
      rintro rfl
      exact other rfl
    | _ => rfl

/-- In any sequence of calls the ranking changes delivered for a node form an unbroken
chain over its known ranks, and each is announced to every chat. -/
theorem rankings_chained (calls : List TimedCall) (nodeId : String) :
    UnbrokenChain (knownRanks nodeId calls) ((deliveredFor config nodeId calls).map (·.change)) ∧
      ∀ delivered ∈ deliveredFor config nodeId calls, delivered.Announced config := by
  have total : ∀ state call, (TimedCall.step config state call).isSome := fun _ _ => rfl
  obtain ⟨after, run⟩ := Lts.run_of_total total {} calls
  have changes := (rankings_perKey noLimit noQuiet enabled).outputs nodeId run
  rw [← Mealy.map_outputsFor] at changes
  refine ⟨unbrokenChain_of_changes (by rw [List.map_map]; exact changes), ?_⟩
  intro delivered mem
  obtain ⟨⟨state, call, minute, now⟩, -, put⟩ := List.mem_filterMap.mp mem
  split at put
  case isFalse => cases put
  case isTrue own =>
    cases call with
    | nodeRankingChange id nodeName rank =>
      obtain ⟨messages, announced, delivers⟩ :=
        delivered_eq noLimit noQuiet enabled state id nodeName rank minute now
      dsimp only at put
      rw [delivers] at put
      obtain ⟨change, -, rfl⟩ := Option.map_eq_some_iff.mp put
      exact announced change
    | _ => cases own

end Loud

/-- `nightConfig` without its quiet hours. -/
def openConfig : TelegramConfig := { nightConfig with quietHours := none }

/-- Two nodes, one of them unknown for a while. -/
def twoRankings : List TimedCall :=
  [⟨.nodeRankingChange "a" "node-a" 0, 600, 0⟩, ⟨.nodeRankingChange "a" "node-a" 5, 601, 1⟩,
    ⟨.nodeRankingChange "b" "node-b" 3, 601, 2⟩, ⟨.nodeRankingChange "a" "node-a" (-1), 602, 3⟩,
    ⟨.nodeRankingChange "a" "node-a" 4, 603, 4⟩, ⟨.nodeRankingChange "b" "node-b" 2, 603, 5⟩,
    ⟨.nodeRankingChange "a" "node-a" 6, 604, 6⟩]

theorem rankings_chained_two : UnbrokenChain (knownRanks "a" twoRankings)
    ((deliveredFor openConfig "a" twoRankings).map (·.change)) :=
  (@rankings_chained openConfig rfl rfl rfl twoRankings "a").1

example : (deliveredFor openConfig "a" twoRankings).map (·.change) = [⟨5, 4⟩, ⟨4, 6⟩] := by decide

end ChainDash.Notify
