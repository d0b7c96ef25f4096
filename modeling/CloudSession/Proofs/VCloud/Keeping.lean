import CloudSession.Proofs.Service.Keeping
import CloudSession.Service.Operation

/-! # What operations on a vCloud service keep

Operations reach the world through the caches, through the requests they ask for, and as the clock
moves between them. A relation that holds over those holds over a whole row of operations.
-/

namespace CloudSession.VCloud.Service

open Act

variable {s : Service}

/-- An operation asks for a request, which has its url by now. -/
def Asks (s : Service) (asked : Request) : Operation → Prop
  | .request r _ | .requestAndClose r => ∃ w, ((s.context.address r).play w).1 = .ok asked
  | .session | .endpoint | .invalidate | .close | .pass _ | .caches _ | .loginUri => False

section

variable {R : World Store → World Store → Prop}

/-- What it takes of a relation to hold over an operation. -/
structure Operating (R : World Store → World Store → Prop) (s : Service) (operation : Operation) :
    Prop where
  logs : LogFree R
  session : Leads R s.caches.session
  orgs : Leads R s.caches.orgs
  loginUri : Leads R s.loginUri
  invalidate : Leads R s.invalidate
  close : Leads R s.context.close
  pass : ∀ seconds, operation = .pass seconds → Leads R (Act.pass seconds)
  asks : ∀ asked timeout, s.Asks asked operation → s.context.client.Leading R asked timeout

variable [IsPreorder (World Store) R] {operation : Operation}

/-- To address a request does nothing. -/
theorem leads_address (logs : LogFree R) (r : Request) : Leads R (s.context.address r) := by
  refine .bind (.demand logs _ _) fun path => ?_
  split
  · exact .pure r
  · exact .bind (.pure _) fun base => .bind (.demand logs _ _) fun url => .pure _

theorem leads_request (logs : LogFree R) {r : Request} (leading : ∀ asked timeout,
      (∃ w, ((s.context.address r).play w).1 = .ok asked) →
        s.context.client.Leading R asked timeout) (timeout : Value) :
    Leads R (s.context.request r timeout) := by
  intro w
  apply Leads.bindFrom (leads_address logs r w)
  intro asked w' addressed
  have known : ∃ w, ((s.context.address r).play w).1 = .ok asked := ⟨w, by rw [addressed]⟩
  exact (leading asked _ known).execute w'

theorem Operating.caches {operation : Caches.Operation}
    (operating : s.Operating R (.caches operation)) : Leads R (s.caches.perform operation) := by
  have logs := operating.logs
  cases operation with
  | session => exact .bind operating.session fun _ => .pure _
  | token => exact .bind (.bind operating.session fun _ => .grant logs _) fun _ => .pure _
  | orgs => exact .bind operating.orgs fun _ => .pure _
  | orgListUri => exact .bind (.bind operating.session fun _ => .grant logs _) fun _ => .pure _
  | invalidate => exact .bind operating.invalidate fun _ => .pure _

theorem Operating.perform (operating : s.Operating R operation) :
    Leads R ((CloudSession.Service.vcloud s).perform operation) := by
  cases operation with
  | request r timeout =>
    exact .bind (leads_request operating.logs operating.asks timeout) fun _ => .pure _
  | requestAndClose r =>
    have within : Leads R (s.context.within (s.context.request r)) :=
      .andFinally operating.logs (leads_request operating.logs operating.asks .null) operating.close
    exact .bind within fun _ => .pure _
  | session => exact .bind operating.session fun _ => .pure _
  | endpoint => exact .pure _
  | invalidate => exact .bind operating.invalidate fun _ => .pure _
  | close => exact .bind operating.close fun _ => .pure _
  | pass seconds => exact .bind (operating.pass seconds rfl) fun _ => .pure _
  | caches operation =>
    refine .bind operating.caches fun answer => ?_
    cases answer <;> exact .pure _
  | loginUri => exact .bind operating.loginUri fun _ => .pure _

theorem leads_after {operations : List Operation}
    (operating : ∀ operation ∈ operations, s.Operating R operation) (w : World Store) :
    R w ((CloudSession.Service.vcloud s).after operations w) := by
  induction operations generalizing w with
  | nil => exact refl_of R w
  | cons operation operations ih =>
    refine trans_of R ((operating operation List.mem_cons_self).perform w) ?_
    exact ih (fun later among => operating later (List.mem_cons_of_mem operation among)) _

end

variable {R : Store → Store → Prop} [IsPreorder Store R]

theorem Caching.operating (caching : s.Caching R)
    (close : ∀ state closed, R state { state with wire := { state.wire with closed := closed } })
    (operation : Operation) : s.Operating (OnOwn R) operation where
  logs := .onOwn
  session := caching.keeps_session
  orgs := caching.keeps_orgs
  loginUri := caching.keeps_loginUri
  invalidate := caching.invalidate
  close w := close w.own _
  pass _ _ w := refl_of R w.own
  asks asked timeout _ := caching.kept_context.leading caching.sendable asked timeout

end CloudSession.VCloud.Service
