import Http1Client.Exchange.Conclusion

/-!
# The client

A call describes a request by changing an empty description, and prepares it under
the client's configuration. A request that cannot be sent fails the call itself;
everything later is told by the promise of the exchange that the call begins.
-/

namespace Http1Client.Client

/-- A call: the request to be sent, or why there is none. -/
def request (config : Config) (configure : RequestSpec → RequestSpec) : Outcome Request :=
  match prepare (configure {}) config with
  | .ok r => .ok r
  | .error fault => .error fault.toFailure

/-- A call for GET, or the method that is chosen. -/
def get (config : Config) (configure : RequestSpec → RequestSpec) : Outcome Request :=
  request config configure

/-- A call for POST, or the method that is chosen. -/
def post (config : Config) (configure : RequestSpec → RequestSpec) : Outcome Request :=
  request config fun spec => configure { spec with method := .post }

/-- A whole exchange, with the store and the promise as they are when it ends. -/
def perform (config : Config) (r : Request) (peer : Peer) (scope : ScopeId) (store : Store)
    (promise : Promise Received) : Conclusion :=
  (Conversation.hold config r peer).conclude scope store promise

end Http1Client.Client
