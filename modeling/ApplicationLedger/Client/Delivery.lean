/-
This file joins the client to the service: a call travels over a connection that delivers all bytes
in order, and what the service sends back comes to the client the same way.
-/

import ApplicationLedger.Client.Call
import ApplicationLedger.Service.Exchange

namespace ApplicationLedger.Call

/-- What comes of sending a request to a service. A request that is too long is not sent. -/
def deliver (c : Call) (s : Service) (now : Instant) : Service × Reply :=
  match Frame.write c.request.toJson .open with
  | (_, .error _) => (s, .received [])
  | (sink, .ok ()) =>
    let (s, sent) := s.exchange now sink.taken
    (s, .received (sent.getD []))

end ApplicationLedger.Call
