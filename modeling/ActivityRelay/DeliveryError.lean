import ActivityRelay.ClientId

/-! Why an event does not reach a viewer. -/
namespace ActivityRelay

inductive DeliveryError where
  | notRegistered (id : ClientId)
  | duplicate (id : ClientId)
  | queueFull (id : ClientId)
  | closed (id : ClientId)
  deriving DecidableEq, Repr

def DeliveryError.message : DeliveryError → String
  | .notRegistered id => "client not registered: " ++ id.text
  | .duplicate id => "client already registered: " ++ id.text
  | .queueFull id => "outbound queue full for client " ++ id.text
  | .closed id => "connection closed for client " ++ id.text

end ActivityRelay
