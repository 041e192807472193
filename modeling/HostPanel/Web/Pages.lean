import HostPanel.Model.Pages
import HostPanel.Web.Portal

namespace HostPanel.Model

open HostPanel.Lib HostPanel.Lib.Program

section Sessions

variable {s : Store} {now : DateTime} {hash : String}

/-- When a session was last seen does not matter to whom it stands for. -/
theorem staffActorOf_common (s : Store) (now : DateTime) (hash : String) :
    s.common.staffActorOf now hash = s.staffActorOf now hash := by
  have hfound : staffBearer.sessionOf s.common hash =
      (staffBearer.sessionOf s hash).map (fun r => { r with lastSeenAt := 0 }) := List.find?_map
  unfold Store.staffActorOf Bearer.accepts
  rw [hfound]
  cases staffBearer.sessionOf s hash with
  | none => rfl
  | some r =>
    have hlive : staffBearer.live now { r with lastSeenAt := 0 } = staffBearer.live now r := rfl
    rw [Option.map_some, Option.filter_some, Option.filter_some, hlive]
    split
    · simp only [Option.bind_some, Option.map_map]
      rfl
    · rfl

theorem clientContextOf_common (s : Store) (now : DateTime) (hash : String) :
    s.common.clientContextOf now hash = s.clientContextOf now hash := by
  have hfound : clientBearer.sessionOf s.common hash =
      (clientBearer.sessionOf s hash).map (fun r => { r with lastSeenAt := 0 }) := List.find?_map
  unfold Store.clientContextOf Bearer.accepts
  rw [hfound]
  cases clientBearer.sessionOf s hash with
  | none => rfl
  | some r =>
    have hlive : clientBearer.live now { r with lastSeenAt := 0 } = clientBearer.live now r := rfl
    rw [Option.map_some, Option.filter_some, Option.filter_some, hlive]
    split
    · simp only [Option.bind_some, Option.map_map]
      rfl
    · rfl

theorem webSession_common (s : Store) (env : Env) (cookie : Option Jwt) :
    s.common.webSession env cookie = s.webSession env cookie := by
  unfold Store.webSession
  simp only [staffActorOf_common, clientContextOf_common]

end Sessions

/-- The tables look the same to a client. -/
structure Store.LooksSame (clientId : Id) (s t : Store) : Prop where
  client : t.clients.find clientId = s.clients.find clientId
  orders : t.orders.rows.filter (fun o => decide (o.clientId = clientId)) =
    s.orders.rows.filter (fun o => decide (o.clientId = clientId))
  invoices : t.invoices.rows.filter (fun i => decide (i.clientId = clientId)) =
    s.invoices.rows.filter (fun i => decide (i.clientId = clientId))
  orderInvoices : ∀ o ∈ s.orders, o.clientId = clientId →
    t.invoices.rows.filter (fun i => decide (i.orderId = some o.id)) =
      s.invoices.rows.filter (fun i => decide (i.orderId = some o.id))
  common : t.common = s.common

namespace Store

variable {clientId : Id}

theorem looksSame_refl (s : Store) : s.LooksSame clientId s := ⟨rfl, rfl, rfl, fun _ _ _ => rfl, rfl⟩

theorem LooksSame.trans {s t u : Store} (h : s.LooksSame clientId t) (h' : t.LooksSame clientId u) :
    s.LooksSame clientId u := by
  refine ⟨h'.client.trans h.client, h'.orders.trans h.orders, h'.invoices.trans h.invoices, fun o ho hown => ?_,
    h'.common.trans h.common⟩
  have hlisted : o ∈ t.orders.rows.filter (fun o => decide (o.clientId = clientId)) := by
    rw [h.orders]
    exact List.mem_filter.mpr ⟨ho, decide_eq_true hown⟩
  exact (h'.orderInvoices o (List.mem_filter.mp hlisted).1 hown).trans (h.orderInvoices o ho hown)

/-- What concerns another client does not show. -/
theorem ConfinedTo.looksSame {other : Id} {s t : Store} (h : s.ConfinedTo other t) (hne : other ≠ clientId) :
    s.LooksSame clientId t := by
  have hapart : ∀ x : Id, decide (x = clientId) = true → decide (x = other) = false := by
    intro x hx
    rw [of_decide_eq_true hx]
    exact decide_eq_false hne.symm
  refine ⟨?_, Table.filter_of_others h.orders (fun o => hapart o.clientId),
    Table.filter_of_others h.invoices (fun i => hapart i.clientId),
    fun o ho hown => h.orderInvoices o ho (fun he => hne (he.symm.trans hown)), h.common⟩
  have hsame := Table.filter_find_of_others h.clients (fun r => hapart r.id) clientId
  have hwhole : ∀ c : Table Client.id, (c.find clientId).filter (fun r => decide (r.id = clientId)) = c.find clientId := by
    intro c
    cases hfound : c.find clientId with
    | none => rfl
    | some r => rw [Option.filter_some, if_pos (decide_eq_true (Table.key_of_find hfound))]
  rwa [hwhole, hwhole] at hsame

theorem looksSame_of_unseen {s t : Store} (h : t.unseen = s.unseen) : s.LooksSame clientId t := by
  obtain ⟨other, hne⟩ := exists_ne clientId
  exact (confinedTo_of_unseen h).looksSame hne

end Store

section Render

variable {env : Env} {actor : ClientPortalActor} {s t : Store}

theorem run_findUniqueOrThrow_bind {ρ ι β : Type} [DecidableEq ι] {key : ρ → ι} {R : Relation key} (i : ι) (k : ρ → Db β)
    (v : Store) : (R.findUniqueOrThrow i >>= k).run v =
      match (R.get v).find i with
      | some r => (k r).run v
      | none => (v, .error .recordNotFound) := by
  unfold Relation.findUniqueOrThrow run
  rw [query_bind, eval_query]
  cases (R.get v).find i <;> rfl

theorem dashboard_looksSame (h : s.LooksSame actor.clientId t) :
    ((portalDashboardPage actor).run t).2 = ((portalDashboardPage actor).run s).2 := by
  have hunpaid : t.invoices.rows.filter (fun i => decide (i.clientId = actor.clientId) && i.isUnpaid) =
      s.invoices.rows.filter (fun i => decide (i.clientId = actor.clientId) && i.isUnpaid) :=
    Table.filter_of_filter h.invoices (fun i hi => (Bool.and_eq_true_iff.mp hi).1)
  have hclient : (prisma.client.get t).find actor.clientId = (prisma.client.get s).find actor.clientId := h.client
  rw [portalDashboardPage, run_findUniqueOrThrow_bind, run_findUniqueOrThrow_bind, hclient]
  cases (prisma.client.get s).find actor.clientId with
  | none => rfl
  | some client =>
    change Except.ok (PortalView.dashboard _ _ (((t.invoices.rows.filter _).insertionSort _).map _)
        (((t.orders.rows.filter _).reverse.take 5).map _)) =
      Except.ok (PortalView.dashboard _ _ (((s.invoices.rows.filter _).insertionSort _).map _)
        (((s.orders.rows.filter _).reverse.take 5).map _))
    rw [hunpaid, h.orders]

theorem catalogProduct_common (s : Store) (tenantId : Id) (currency : String) :
    s.common.catalogProduct env tenantId currency = s.catalogProduct env tenantId currency := rfl

theorem products_looksSame (h : t.common = s.common) :
    ((productsPage env actor).run t).2 = ((productsPage env actor).run s).2 := by
  have hshown : ∀ v : Store, ((productsPage env actor).run v).2 = .ok (.products
      ((v.common.publicGroups actor.tenantId).map (fun g =>
        (g.name, (v.common.publicProducts g).map (fun p =>
          (v.common.catalogProduct env actor.tenantId "USD" p).card))))) := by
    intro v
    rw [catalogProduct_common]
    unfold productsPage run
    rw [eval_bind, eval_listPublicCatalog]
    simp only [eval_ret, pure_eq_ret, List.map_map, Function.comp_def]
    rfl
  rw [hshown, hshown, h]

theorem orders_looksSame (h : s.LooksSame actor.clientId t) :
    ((ordersPage actor).run t).2 = ((ordersPage actor).run s).2 := by
  change Except.ok (PortalView.orders ((t.orders.rows.filter _).reverse.map _)) =
    Except.ok (PortalView.orders ((s.orders.rows.filter _).reverse.map _))
  rw [h.orders]

theorem order_looksSame (h : s.LooksSame actor.clientId t) (id : Id) :
    ((orderDetailPage actor id).run t).2 = ((orderDetailPage actor id).run s).2 := by
  have hshown : ∀ v : Store, ((orderDetailPage actor id).run v).2 = .ok
      ((((v.orders.find id).filter (fun o => decide (o.clientId = actor.clientId))).map (fun o =>
        o.view (v.invoices.rows.filter (fun i => decide (i.orderId = some o.id))))).getD .notFound) := by
    intro v
    change Except.ok (((((v.orders.find id).map _).filter _).map _).getD _) = _
    cases v.orders.find id with
    | none => rfl
    | some o =>
      rw [Option.map_some, Option.filter_some, Option.filter_some]
      by_cases hown : o.clientId = actor.clientId
      · simp only [hown, decide_true, if_true, Option.map_some]
      · simp only [hown, decide_false, Bool.false_eq_true, if_false, Option.map_none]
  have hfound : (t.orders.find id).filter (fun o => decide (o.clientId = actor.clientId)) =
      (s.orders.find id).filter (fun o => decide (o.clientId = actor.clientId)) := by
    rw [Table.filter_find, Table.filter_find, h.orders]
  rw [hshown, hshown, hfound]
  cases hown : (s.orders.find id).filter (fun o => decide (o.clientId = actor.clientId)) with
  | none => rfl
  | some o =>
    obtain ⟨hmem, hclient⟩ := Option.filter_eq_some_iff.mp hown
    simp only [Option.map_some]
    rw [h.orderInvoices o (Table.mem_of_find hmem) (of_decide_eq_true hclient)]

theorem invoice_looksSame (h : s.LooksSame actor.clientId t) (id : Id) :
    ((invoiceDetailPage actor id).run t).2 = ((invoiceDetailPage actor id).run s).2 := by
  change Except.ok ((((t.invoices.find id).filter _).map _).getD _) = Except.ok ((((s.invoices.find id).filter _).map _).getD _)
  rw [Table.filter_find, Table.filter_find, h.invoices]

theorem profile_looksSame (h : s.LooksSame actor.clientId t) :
    ((profilePage actor).run t).2 = ((profilePage actor).run s).2 := by
  have hclient : (prisma.client.get t).find actor.clientId = (prisma.client.get s).find actor.clientId := h.client
  rw [profilePage, run_findUniqueOrThrow_bind, run_findUniqueOrThrow_bind, hclient]
  cases (prisma.client.get s).find actor.clientId <;> rfl

theorem render_looksSame (page : PortalPage) (h : s.LooksSame actor.clientId t) :
    ((page.render env actor).run t).2 = ((page.render env actor).run s).2 := by
  cases page with
  | dashboard => exact dashboard_looksSame h
  | products => exact products_looksSame h.common
  | orders => exact orders_looksSame h
  | order id => exact order_looksSame h id
  | invoice id => exact invoice_looksSame h id
  | profile => exact profile_looksSame h

end Render

section Requests

variable {s : Store} {clientId : Id}

/-- What a request for a page shows, from the session its cookie stands for. -/
theorem shows_eq (r : WebRequest) (page : PortalPage) (s : Store) :
    r.shows page s =
      match getClientActor (s.webSession r.env r.cookie) with
      | none => .ok none
      | some actor => ((page.render r.env actor).run s).2.map some := by
  have hleaves : (getSession r.env r.cookie).Leaves Store.unseen := leaves_getSession r.cookie
  have hseen := after_of_leaves hleaves s
  have hanswer := run_getSession s r.env r.cookie
  unfold Program.after at hseen
  unfold WebRequest.shows
  cases hrun : (getSession r.env r.cookie).run s with
  | mk t result =>
    rw [hrun] at hseen hanswer
    obtain rfl : result = .ok (s.webSession r.env r.cookie) := hanswer
    simp only
    cases getClientActor (s.webSession r.env r.cookie) with
    | none => rfl
    | some actor => exact congrArg (Except.map some) (render_looksSame page (Store.looksSame_of_unseen hseen))

/-- A request of the portal that does not concern the client. -/
def WebRequest.Spares (clientId : Id) (s : Store) (q : WebRequest) : Prop :=
  q.action = .portalPage ∨ ∃ action, q.action = .client action ∧
    ∀ actor, getClientActor (s.webSession q.env q.cookie) = some actor →
      ∀ other, action.Concerns q.env s actor other → other ≠ clientId

theorem WebRequest.Spares.looksSame {q : WebRequest} (h : q.Spares clientId s) : s.LooksSame clientId (q.after s) := by
  unfold WebRequest.after WebRequest.respond
  obtain haction | ⟨action, haction, hspares⟩ := h
  · rw [haction]
    obtain ⟨t, hseen, hlogin | ⟨actor, _, hgoes⟩⟩ := q.withActor_cases getClientActor "/login"
      (fun _ t => (t, .ok .page)) s
    · simp only [WebRequest.asClient, hlogin]
      exact Store.looksSame_of_unseen hseen
    · simp only [WebRequest.asClient, hgoes]
      exact Store.looksSame_of_unseen hseen
  · rw [haction]
    obtain ⟨t, hseen, hlogin | ⟨actor, hactor, hgoes⟩⟩ := q.withActor_cases getClientActor "/login"
      (fun actor t => action.perform q.env actor q.requestMeta t) s
    · simp only [WebRequest.asClient, hlogin]
      exact Store.looksSame_of_unseen hseen
    · simp only [WebRequest.asClient, hgoes]
      have horders : t.unseen.orders = s.unseen.orders := congrArg Store.orders hseen
      change t.orders = s.orders at horders
      obtain ⟨other, hconfined, hconcerns⟩ := action.confined q.env actor q.requestMeta t
      have hother : action.Concerns q.env s actor other := by
        unfold ClientAction.Concerns at hconcerns ⊢
        rwa [horders] at hconcerns
      exact (Store.looksSame_of_unseen hseen).trans (hconfined.looksSame (hspares actor hactor other hother))

/-- Nothing that the users of the portal do for other clients shows on a page of a
client. -/
theorem portal_noninterference (s : Store) {r : WebRequest} {actor : ClientPortalActor}
    (hactor : getClientActor (s.webSession r.env r.cookie) = some actor) {others : List WebRequest}
    (hspares : AlongRun WebRequest.after (WebRequest.Spares actor.clientId) s others) (page : PortalPage) :
    r.shows page (runWeb s others) = r.shows page s := by
  have hsame : s.LooksSame actor.clientId (runWeb s others) :=
    runFrom_inv (I := fun t => s.LooksSame actor.clientId t) (fun _ _ h hq => h.trans hq.looksSame)
      s.looksSame_refl hspares
  have hsession : (runWeb s others).webSession r.env r.cookie = s.webSession r.env r.cookie := by
    rw [← webSession_common, hsame.common, webSession_common]
  rw [shows_eq, shows_eq, hsession, hactor]
  exact congrArg (Except.map some) (render_looksSame page hsame)

end Requests

namespace Sample

def neighbor : ClientContact :=
  { member with id := "contact-2", clientId := "client-2", email := "neighbor@example.test" }

/-- The portal with a second client. -/
def street : Store :=
  { portal with
    clients := portal.clients.insert { client with id := "client-2" }
    clientContacts := portal.clientContacts.insert neighbor }

def neighborLibrary : AuthLibrary :=
  { authLibrary with
    signIn := fun raw => do
      let _ ← authorize (moment "c" 0) raw
      return "https://panel.example.test/portal" }

def neighborSignIn : WebRequest :=
  { memberSignIn with
    env := moment "c" 0
    action := .anyone (.clientLogin neighborLibrary { memberForm with email := some "neighbor@example.test" }) }

def signedIn : Store := runWeb street [memberSignIn, neighborSignIn]

/-- The neighbor looks at the orders. -/
def neighborLooks : WebRequest where
  env := moment "d" 90000
  cookie := some { actorType := some .clientContact, sessionToken := some "token-c" }
  requestMeta := nowhere
  action := .portalPage

theorem orderRequest_spares : orderRequest.Spares "client-2" signedIn := by
  refine Or.inr ⟨_, rfl, fun actor hactor other hother => ?_⟩
  have hmember : getClientActor (signedIn.webSession orderRequest.env orderRequest.cookie) = some member.actor := by
    decide +kernel
  obtain rfl := Option.some.inj (hactor.symm.trans hmember)
  obtain rfl | ⟨_, _, o, ho, _⟩ := hother
  · decide
  · have hnone : signedIn.orders.rows = [] := by decide +kernel
    exact absurd (hnone ▸ ho : o ∈ ([] : List Order)) List.not_mem_nil

end Sample

open Sample in
/-- The neighbor sees no order, though one was placed. -/
theorem portal_noninterference_neighbor :
    (runWeb signedIn [orderRequest]).orders.rows.length = 1 ∧
      neighborLooks.shows .orders (runWeb signedIn [orderRequest]) = neighborLooks.shows .orders signedIn := by
  have hactor : getClientActor (signedIn.webSession neighborLooks.env neighborLooks.cookie) = some neighbor.actor := by
    decide +kernel
  have hspares : AlongRun WebRequest.after (WebRequest.Spares "client-2") signedIn [orderRequest] :=
    ⟨orderRequest_spares, trivial⟩
  exact ⟨by decide +kernel, portal_noninterference signedIn hactor hspares .orders⟩

end HostPanel.Model
