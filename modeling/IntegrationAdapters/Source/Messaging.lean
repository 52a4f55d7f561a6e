import IntegrationAdapters.Source.Config

/-!
# The message broker selector

`NewBroker` (`unnamed/part_006`) picks go-micro's in-memory broker when messaging is disabled,
RabbitMQ for type 1, NATS for type 2 and the in-memory broker for any other type, always with the
configured addresses. Only RabbitMQ gets subscribe options, built by `NewSubscribeOptions` from the
configured flags; every other broker keeps the zero `SubscribeOptions`, whose `AutoAck` is false.
The brokers themselves, the registry option and RabbitMQ's `WithoutExchange` are not modelled.
-/

namespace IntegrationAdapters.Source.Messaging

open Config

/-- The fields of `BrokerConfig.Messaging` that `NewBroker` reads beyond those `Validate` reads. -/
structure BrokerFlags where
  DisableAutoAck : Bool
  Durable : Bool
  AckOnSuccess : Bool
  RequeueOnError : Bool
  deriving DecidableEq, Repr

/-- The broker implementations `NewBroker` chooses between. -/
inductive BrokerKind where
  | memory
  | rabbitmq
  | nats
  deriving DecidableEq, Repr

/-- `broker.SubscribeOptions`, with the RabbitMQ context flags. -/
structure SubscribeOptions where
  AutoAck : Bool := false
  ackOnSuccess : Bool := false
  durableQueue : Bool := false
  requeueOnError : Bool := false
  deriving DecidableEq, Repr

/-- `broker.SubscribeOption` and the RabbitMQ ones the adapter uses. -/
inductive SubscribeOption where
  | DisableAutoAck
  | AckOnSuccess
  | DurableQueue
  | RequeueOnError
  deriving DecidableEq, Repr

/-- What one option sets. -/
def SubscribeOption.apply (o : SubscribeOptions) : SubscribeOption → SubscribeOptions
  | .DisableAutoAck => { o with AutoAck := false }
  | .AckOnSuccess => { o with ackOnSuccess := true }
  | .DurableQueue => { o with durableQueue := true }
  | .RequeueOnError => { o with requeueOnError := true }

/-- `broker.NewSubscribeOptions`: `AutoAck` on, then the options in order. -/
def NewSubscribeOptions (opts : List SubscribeOption) : SubscribeOptions :=
  opts.foldl SubscribeOption.apply { AutoAck := true }

/-- `BrokerWithOptions`, with the addresses the broker is built with. -/
structure BrokerWithOptions where
  Broker : BrokerKind
  Addrs : List String
  SubOptions : SubscribeOptions
  deriving DecidableEq, Repr

/-- `NewBroker`. -/
def NewBroker (config : BrokerConfig) (flags : BrokerFlags) : BrokerWithOptions :=
  if !config.Enable then ⟨.memory, config.Addrs, {}⟩
  else match config.type with
    | 1 =>
      let opts := (if flags.DisableAutoAck then [.DisableAutoAck] else []) ++
        (if flags.AckOnSuccess then [.AckOnSuccess] else []) ++
        (if flags.Durable then [.DurableQueue] else []) ++
        (if flags.RequeueOnError then [.RequeueOnError] else [])
      ⟨.rabbitmq, config.Addrs, NewSubscribeOptions opts⟩
    | 2 => ⟨.nats, config.Addrs, {}⟩
    | _ => ⟨.memory, config.Addrs, {}⟩

end IntegrationAdapters.Source.Messaging
