import RemoteIface.Library.Runs
import RemoteIface.Gateway.Confinement
import RemoteIface.External.Objects

/-!
Two bots on one broker. `topic_for` scopes a topic by namespace and instance,
and so tells any two bots apart; `MQTTCommands` builds its topics from the
namespace alone. What one bot is told to do, another does as well when their
namespaces are the same, whatever their instances are.
-/

namespace RemoteIface.External.BotScope

set_option autoImplicit false

open RemoteIface.Library.Runs
open RemoteIface.Library.InsertionOrder
open RemoteIface.Commlib RemoteIface.Gateway
open RemoteIface.Commlib.Endpoints
open RemoteIface.Commlib.Rpc
open RemoteIface.Commlib.Dispatch
open RemoteIface.Commlib.Connection
open RemoteIface.Commlib.NodeContext
open RemoteIface.Protocols.Messages
open RemoteIface.Gateway.Wiring
open RemoteIface.Gateway.TopicTables
open RemoteIface.Gateway.Traffic
open RemoteIface.Gateway.Confinement
open RemoteIface.External.Objects

/-- A single topic level. -/
structure Level where
  name : String
  nonempty : name ≠ ""
  flat : ∀ c ∈ name.toList, c ≠ '/' ∧ c ≠ '+' ∧ c ≠ '#'

/-- A gateway with `MQTTCommands`, by its configuration and the `instance_id`
of its app. -/
structure Bot where
  config : GatewayConfig
  botNamespace : Level
  instanceId : Level
  named : config.botNamespace = botNamespace.name
  commands : config.enableCommands = true

def InvokesHandler (ctx next : Context Instance Response) : Prop :=
  ∃ request executor decoded, next.router.requests = ctx.router.requests ++ [request] ∧
    request.work = .queued executor decoded

def commandTopics (bot : Bot) : List String := (startedRegistry bot.config).commandTable.keys

def TablesDisjoint (bot other : Bot) : Prop :=
  ∀ topic ∈ commandTopics bot, topic ∉ commandTopics other

/-- Over every run of the other gateway, no message on a command topic of this
one is handed to an RPC handler there. -/
def Unheard (bot other : Bot) : Prop :=
  ∀ (events : List Traffic.Event) (exchange : Exchange),
    Guarded (Exchange.step other.config) (fun _ event => ByHost event) .fresh events →
    run (Exchange.step other.config) .fresh events = some exchange →
    ∀ (id : ContextNumber) (ctx next : Context Instance Response) (session : SessionId)
      (message : Message) (callbacks : Callbacks Instance),
      exchange.system.contexts[id]? = some ctx → message.topic ∈ commandTopics bot →
      ctx.received session message callbacks = some next → ¬ InvokesHandler ctx next

structure CommandsApart (bot other : Bot) : Prop where
  tables : TablesDisjoint bot other
  unheard : Unheard bot other
  unheardBack : Unheard other bot

theorem flat_split_unique {first second rest others : List Char}
    (flatFirst : ∀ c ∈ first, c ≠ '/') (flatSecond : ∀ c ∈ second, c ≠ '/')
    (same : first ++ '/' :: rest = second ++ '/' :: others) :
    first = second ∧ rest = others := by
  induction first generalizing second with
  | nil =>
      cases second with
      | nil => simpa using same
      | cons c second =>
          rw [List.nil_append, List.cons_append, List.cons.injEq] at same
          exact absurd same.1.symm (flatSecond c List.mem_cons_self)
  | cons c first induction =>
      cases second with
      | nil =>
          rw [List.nil_append, List.cons_append, List.cons.injEq] at same
          exact absurd same.1 (flatFirst c List.mem_cons_self)
      | cons d second =>
          rw [List.cons_append, List.cons_append, List.cons.injEq] at same
          have tails := induction (fun e member => flatFirst e (List.mem_cons_of_mem _ member))
            (fun e member => flatSecond e (List.mem_cons_of_mem _ member)) same.2
          rw [same.1, tails.1]
          exact ⟨rfl, tails.2⟩

theorem Level.slash_free (level : Level) : ∀ c ∈ level.name.toList, c ≠ '/' :=
  fun c member => (level.flat c member).1

/-- `topic_for` keeps the topics of different instances apart. -/
theorem topic_for_apart {bot other : Bot} (ids : bot.instanceId.name ≠ other.instanceId.name)
    (topic otherTopic : String) :
    topicFor bot.botNamespace.name bot.instanceId.name topic true ≠
      topicFor other.botNamespace.name other.instanceId.name otherTopic true := by
  intro same
  have chars := congrArg String.toList same
  simp only [topicFor, if_true, String.toList_append] at chars
  have slash : "/".toList = ['/'] := rfl
  rw [slash] at chars
  simp only [List.append_assoc, List.singleton_append] at chars
  have below := (flat_split_unique bot.botNamespace.slash_free other.botNamespace.slash_free
    chars).2
  have instances := (flat_split_unique bot.instanceId.slash_free other.instanceId.slash_free
    below).1
  exact ids (String.toList_inj.mp instances)

theorem command_suffix_slash (command : Command) :
    ∃ rest, (commandSuffix command).toList = '/' :: rest := by
  cases command <;> exact ⟨_, rfl⟩

theorem namespace_of_command_topic {bot other : Bot} {command otherCommand : Command}
    (same : commandTopic bot.config command = commandTopic other.config otherCommand) :
    bot.botNamespace.name = other.botNamespace.name := by
  obtain ⟨rest, suffix⟩ := command_suffix_slash command
  obtain ⟨others, otherSuffix⟩ := command_suffix_slash otherCommand
  have chars := congrArg String.toList same
  simp only [commandTopic, String.toList_append, suffix, otherSuffix, bot.named,
    other.named] at chars
  have names := flat_split_unique bot.botNamespace.slash_free other.botNamespace.slash_free chars
  exact String.toList_inj.mp names.1

theorem mem_command_topics (bot : Bot) (topic : String) :
    topic ∈ commandTopics bot ↔ ∃ command, topic = commandTopic bot.config command := by
  rw [commandTopics, started_command_iff]
  constructor
  · intro both
    exact both.2
  · intro named
    exact ⟨bot.commands, named⟩

theorem invoked_command {config : GatewayConfig} {ctx next : Context Instance Response}
    {session : SessionId} {message : Message} {callbacks : Callbacks Instance}
    (fenced : Fenced config ctx.router.registry)
    (taken : ctx.received session message callbacks = some next)
    (invokes : InvokesHandler ctx next) : ∃ command, message.topic = commandTopic config command := by
  obtain ⟨request, executor, decoded, appended, _⟩ := invokes
  have absent : ctx.router.requests[ctx.router.requests.length]? = none := by simp
  have stored : next.router.requests[ctx.router.requests.length]? = some request := by
    rw [appended]
    simp
  have step : ctx.step Response.serialize (.received session message callbacks) = some next := taken
  obtain ⟨_, _, _, topic, data, _, msgType, service, same, entry, _⟩ :=
    Context.new_request_cases absent stored step
  rw [NodeContext.Event.received.injEq] at same
  obtain ⟨_, command, named, _⟩ := fenced.commands topic msgType service entry
  refine ⟨command, ?_⟩
  rw [same.2.1]
  exact named

theorem unheard_of_namespaces {bot other : Bot}
    (differ : bot.botNamespace.name ≠ other.botNamespace.name) : Unheard bot other := by
  intro events exchange byHost reached id ctx next session message callbacks stored onCommand taken
    invokes
  have contained : Contained other.config exchange :=
    run_preserves (Exchange.step other.config)
      (fun _ _ _ contained met taken => contained_step contained met taken)
      (contained_fresh other.config) byHost reached
  have kept := contained.system.contexts ctx (List.mem_of_getElem? stored)
  obtain ⟨otherCommand, heard⟩ := invoked_command kept.fenced taken invokes
  obtain ⟨command, published⟩ := (mem_command_topics bot message.topic).mp onCommand
  exact differ (namespace_of_command_topic (published.symm.trans heard))

/-- Two bots are kept apart by their namespaces and by nothing else: their
instances play no part. -/
theorem commands_apart_iff_namespaces_differ (bot other : Bot) :
    CommandsApart bot other ↔ bot.botNamespace.name ≠ other.botNamespace.name := by
  constructor
  · intro apart same
    have ours : commandTopic bot.config .start ∈ commandTopics bot :=
      (mem_command_topics bot _).mpr ⟨.start, rfl⟩
    apply apart.tables _ ours
    apply (mem_command_topics other _).mpr
    refine ⟨.start, ?_⟩
    rw [commandTopic, commandTopic, bot.named, other.named, same]
  · intro differ
    constructor
    · intro topic ours theirs
      obtain ⟨command, published⟩ := (mem_command_topics bot topic).mp ours
      obtain ⟨otherCommand, heard⟩ := (mem_command_topics other topic).mp theirs
      exact differ (namespace_of_command_topic (published.symm.trans heard))
    · exact unheard_of_namespaces differ
    · exact unheard_of_namespaces differ.symm

def hummingbot (instanceId : Level) : Bot where
  config := {}
  botNamespace := ⟨"hummingbot", by decide, by simp⟩
  instanceId := instanceId
  named := rfl
  commands := rfl

def firstBot : Bot := hummingbot ⟨"bot_a", by decide, by simp⟩

def secondBot : Bot := hummingbot ⟨"bot_b", by decide, by simp⟩

def subscribedRun : List Traffic.Event :=
  [.inside 0 (.wire .start), .inside 0 (.wire (.iterated true)), .inside 0 (.wire .startResumed)] ++
  (createGateway {}).map (Traffic.Event.started 0) ++
  [.inside 0 (.wire (.entered true))] ++
  List.replicate 9 (.inside 0 (.wire (.subscribed true)))

/-- A stop command for the first bot stops the second. -/
theorem other_bot_runs_command :
    firstBot.instanceId.name ≠ secondBot.instanceId.name ∧
      ¬ TablesDisjoint firstBot secondBot ∧ ¬ Unheard firstBot secondBot := by
  have onCommand : "hummingbot/stop" ∈ commandTopics firstBot :=
    (mem_command_topics firstBot _).mpr ⟨.stop, by decide⟩
  refine ⟨by decide, ?_, ?_⟩
  · intro disjoint
    exact disjoint _ onCommand ((mem_command_topics secondBot _).mpr ⟨.stop, by decide⟩)
  · intro unheard
    have byHost : ∀ event ∈ subscribedRun, ByHost event := by
      simp [subscribedRun, createGateway, ByHost]
    exact unheard subscribedRun _ (guarded_of_forall _ byHost Exchange.fresh) rfl 0 _ _ 0
      ⟨"hummingbot/stop", .value (.obj [])⟩ (fun _ _ => .ok ()) rfl onCommand rfl
      ⟨_, _, _, rfl, rfl⟩

end RemoteIface.External.BotScope
