import ReleasePipeline.Proofs.Hosting.Client
import ReleasePipeline.Proofs.Json.RoundTrip
import ReleasePipeline.Proofs.Support.Logged

/-!
# `ReleasePipeline.Proofs.Hosting.Listing`: the search for a tag goes through the pages in order

A release is found by its tag by asking for one page of the list of releases after the other.
`loggedTransport` writes down what is sent and what is answered, so that a search can be held
against its log. `verdict` is what one answer settles: an answer that is no page ends the search
with its error, a page with the tag ends it with the first release that carries it, and a page
that is not full ends it with nothing. Any other page settles nothing, and the next one is asked
for.

`Searched` says of a whole search that it went through the pages in this way and stopped at the
first verdict. `run_findFrom` is the induction over the pages that may still be asked for. Where
the answers are the pages of one list, a search is a search in this list: `Searched.of_serves`.
-/

set_option autoImplicit false

namespace ReleasePipeline.Proofs

open ReleaseClient (exchange list readBody refusalMessage)

/-! ### What is sent -/

/-- A request that was sent, and what came back. -/
structure Sent where
  request : Http.Request
  answer : Except String Http.Response

/-- A transport that writes down what it is used for. -/
def loggedTransport {σ : Type} (transport : Http.Transport (StateM σ)) :
    Http.Transport (StateM (Logged Sent σ)) where
  send request := logging (fun _ answer => ⟨request, answer⟩) (transport.send request)

/-! ### What an answer settles -/

/-- The page that an answer brings: none if the request failed, if the host reported no success or
if the answer is no list of releases. -/
def pageOf : Except String Http.Response → Except HostError (List HostedRelease)
  | .error reason => .error (.requestFailed reason)
  | .ok response =>
    if response.isSuccess then
      match Json.decode ofReading response.body.data.toList with
      | .ok releases => .ok releases
      | .error _ =>
        .error (.unparsable "Failed to parse JSON response: error decoding response body")
    else .error (.refused response.status (refusalMessage response.body))

/-- What is read of a body is the page that the answer brings. -/
theorem readBody_eq_pageOf (response : Http.Response) :
    readBody response = pageOf (.ok response) := by
  unfold readBody ReleaseClient.checkSuccess pageOf
  cases hsuccess : response.isSuccess with
  | false => simp [hsuccess, bind, Except.bind]
  | true =>
      simp only [hsuccess, if_pos, bind, Except.bind]
      cases (Json.decode ofReading response.body.data.toList : Except _ (List HostedRelease)) <;>
        rfl

/-- What an answer settles of the search for a tag, if anything. -/
def verdict (tag : String) (answer : Except String Http.Response) :
    Option (Except HostError (Option HostedRelease)) :=
  match pageOf answer with
  | .error error => some (.error error)
  | .ok releases =>
    match releases.find? (·.tagName == tag) with
    | some release => some (.ok (some release))
    | none => if releases.length < pageSize then some (.ok none) else none

/-- Only a full page without the tag settles nothing. -/
theorem verdict_eq_none {tag : String} {answer : Except String Http.Response} :
    verdict tag answer = none ↔ ∃ releases, pageOf answer = .ok releases ∧
      releases.find? (·.tagName == tag) = none ∧ pageSize ≤ releases.length := by
  unfold verdict
  constructor
  · intro h
    split at h
    · cases h
    · rename_i releases hpage
      split at h
      · cases h
      · rename_i hnone
        split at h
        · cases h
        · exact ⟨releases, hpage, hnone, Nat.le_of_not_lt ‹_›⟩
  · rintro ⟨releases, hpage, hnone, hfull⟩
    simp [hpage, hnone, hfull]

/-! ### How a search goes -/

/-- How a search that begins at a page goes, where at most `more` pages may be asked for after
it. -/
structure Searched {σ : Type} (client : ReleaseClient) (transport : Http.Transport (StateM σ))
    (tag : String) (page more : Nat) (log : List Sent)
    (result : Except HostError (Option HostedRelease)) : Prop where
  /-- The pages are asked for one after the other. -/
  asked : ∀ index (h : index < log.length),
    client.listRequest (page + index) = .ok log[index].request
  answered : ∀ index (h : index < log.length), ∃ world,
    ((transport.send log[index].request).run world).1 = log[index].answer
  /-- Nothing is asked for behind an answer that settles the search. -/
  unsettled : ∀ index (h : index + 1 < log.length), verdict tag log[index].answer = none
  ending : match log.getLast?.bind (verdict tag ·.answer) with
    | some settled => result = settled
    | none => ∃ error, result = .error error ∧
      (client.listRequest (page + log.length) = .error error ∨
        log.length = more + 1 ∧ error = .requestFailed "no further page can be asked for")

section
variable {σ : Type} {client : ReleaseClient} {transport : Http.Transport (StateM σ)} {tag : String}
  {page more : Nat} {result : Except HostError (Option HostedRelease)}

/-- A search ends where the next page cannot be asked for. -/
theorem Searched.unsendable {error : HostError} (h : client.listRequest page = .error error) :
    Searched client transport tag page more [] (.error error) where
  asked _ h := absurd h (Nat.not_lt_zero _)
  answered _ h := absurd h (Nat.not_lt_zero _)
  unsettled _ h := absurd h (Nat.not_lt_zero _)
  ending := ⟨error, rfl, .inl h⟩

/-- The search for a tag asks for a page, and ends there if the answer settles it or if there is no
further page that could be asked for. -/
theorem Searched.last {sent : Sent} (hrequest : client.listRequest page = .ok sent.request)
    {world : σ} (hanswer : ((transport.send sent.request).run world).1 = sent.answer)
    (hending : match verdict tag sent.answer with
      | some settled => result = settled
      | none => more = 0 ∧ result = .error (.requestFailed "no further page can be asked for")) :
    Searched client transport tag page more [sent] result where
  asked index h := by
    obtain rfl : index = 0 := Nat.lt_one_iff.mp h
    exact hrequest
  answered index h := by
    obtain rfl : index = 0 := Nat.lt_one_iff.mp h
    exact ⟨world, hanswer⟩
  unsettled _ h := absurd (Nat.lt_of_succ_lt_succ h) (Nat.not_lt_zero _)
  ending := by
    -- The only exchange is the last one, so the ending is told by what its answer settles.
    show match verdict tag sent.answer with
      | some settled => result = settled
      | none => _
    cases hverdict : verdict tag sent.answer with
    | some settled =>
        rw [hverdict] at hending
        exact hending
    | none =>
        rw [hverdict] at hending
        obtain ⟨rfl, rfl⟩ := hending
        exact ⟨_, rfl, .inr ⟨rfl, rfl⟩⟩

/-- The search goes on behind an answer that settles nothing. -/
theorem Searched.next {sent : Sent} {rest : List Sent}
    (hrequest : client.listRequest page = .ok sent.request) {world : σ}
    (hanswer : ((transport.send sent.request).run world).1 = sent.answer)
    (hverdict : verdict tag sent.answer = none)
    (h : Searched client transport tag (page + 1) more rest result) :
    Searched client transport tag page (more + 1) (sent :: rest) result where
  asked index hindex := by
    cases index with
    | zero => exact hrequest
    | succ index =>
        rw [← Nat.succ_add_eq_add_succ]
        exact h.asked index (Nat.lt_of_succ_lt_succ hindex)
  answered index hindex := by
    cases index with
    | zero => exact ⟨world, hanswer⟩
    | succ index => exact h.answered index (Nat.lt_of_succ_lt_succ hindex)
  unsettled index hindex := by
    cases index with
    | zero => exact hverdict
    | succ index => exact h.unsettled index (Nat.lt_of_succ_lt_succ hindex)
  ending := by
    -- The last answer is that of the rest, if there is any rest at all.
    have hending := h.ending
    cases rest with
    | nil =>
        simp only [List.getLast?_nil, Option.bind_none, List.length_nil] at hending
        simp only [List.getLast?_singleton, Option.bind_some, hverdict, List.length_singleton]
        obtain ⟨error, rfl, hunsendable | ⟨hmore, -⟩⟩ := hending
        · exact ⟨error, rfl, .inl hunsendable⟩
        · omega
    | cons other others =>
        rw [List.getLast?_cons_cons]
        cases hlast : (other :: others).getLast?.bind (verdict tag ·.answer) with
        | some settled =>
            rw [hlast] at hending
            exact hending
        | none =>
            rw [hlast] at hending
            obtain ⟨error, hresult, hfurther⟩ := hending
            refine ⟨error, hresult, hfurther.imp (fun hunsendable => ?_) fun ⟨hlength, herror⟩ =>
              ⟨congrArg (· + 1) hlength, herror⟩⟩
            rw [← hunsendable, List.length_cons, Nat.succ_add_eq_add_succ]

end

section
variable {σ : Type} (client : ReleaseClient) (transport : Http.Transport (StateM σ)) (tag : String)

variable {client} in
/-- A page that cannot be asked for ends a search. -/
theorem run_findFrom_unsendable {page : Nat} {error : HostError}
    (h : client.listRequest page = .error error) (more : Nat) (world : σ) :
    (client.findFrom transport tag page more).run world = (.error error, world) := by
  have hlist : (client.list transport page).run world = (.error error, world) := by
    unfold list exchange
    rw [h]
    rfl
  rw [findFrom_eq]
  exact run_bind_of hlist _

variable {client} in
/-- A page is asked for with one request. -/
theorem run_list {page : Nat} {request : Http.Request} (h : client.listRequest page = .ok request)
    {world after : σ} {answer : Except String Http.Response}
    (hsend : (transport.send request).run world = (answer, after)) :
    (client.list transport page).run world = (pageOf answer, after) := by
  unfold list exchange
  rw [h]
  refine (run_bind_of hsend _).trans ?_
  cases answer with
  | error reason => rfl
  | ok response => exact congrArg (·, after) (readBody_eq_pageOf response)

variable {client transport} in
/-- The answer settles the search, or the next page is asked for as long as there may be one. -/
theorem run_findFrom_answered {page : Nat} {world after : σ}
    {answer : Except String Http.Response}
    (h : (client.list transport page).run world = (pageOf answer, after)) (more : Nat) :
    (client.findFrom transport tag page more).run world =
      match verdict tag answer with
      | some settled => (settled, after)
      | none =>
        match more with
        | 0 => (.error (.requestFailed "no further page can be asked for"), after)
        | more + 1 => (client.findFrom transport tag (page + 1) more).run after := by
  rw [findFrom_eq]
  refine (run_bind_of h _).trans ?_
  unfold verdict
  -- What an answer settles follows the branches of the search.
  cases pageOf answer with
  | error error => rfl
  | ok releases =>
      show StateT.run (match releases.find? (·.tagName == tag) with
        | some release => _
        | none => _) after = _
      cases hfind : releases.find? (·.tagName == tag) with
      | some release => simp only [hfind]; rfl
      | none =>
          simp only [hfind]
          by_cases hshort : releases.length < pageSize
          · rw [if_pos hshort, if_pos hshort]
            rfl
          · rw [if_neg hshort, if_neg hshort]
            cases more <;> rfl

/-- A search goes through the pages, from any page on. -/
theorem run_findFrom (page more : Nat) (world : σ) (log : List Sent) :
    let run := (client.findFrom transport tag page more).run world
    ∃ during, (client.findFrom (loggedTransport transport) tag page more).run ⟨world, log⟩ =
        (run.1, ⟨run.2, log ++ during⟩) ∧
      Searched client transport tag page more during run.1 := by
  -- The page is gone through before it is known whether there may be another one.
  induction more using Nat.strongRecOn generalizing page world log with
  | _ more ih =>
  cases hrequest : client.listRequest page with
  | error error =>
      have hrun := run_findFrom_unsendable transport tag hrequest more world
      refine ⟨[], ?_, ?_⟩
      · rw [hrun, List.append_nil]
        exact run_findFrom_unsendable (loggedTransport transport) tag hrequest more ⟨world, log⟩
      · rw [hrun]
        exact .unsendable hrequest
  | ok request =>
      obtain ⟨answer, after, hsend⟩ : ∃ answer after,
          (transport.send request).run world = (answer, after) := ⟨_, _, rfl⟩
      have hlogged : ((loggedTransport transport).send request).run ⟨world, log⟩ =
          (answer, ⟨after, log ++ [⟨request, answer⟩]⟩) := by
        show (((transport.send request).run world).1, Logged.mk _ _) = _
        rw [hsend]
      have hanswer : ((transport.send request).run world).1 = answer := by rw [hsend]
      have hrun := run_findFrom_answered tag (run_list transport hrequest hsend) more
      have hother := run_findFrom_answered tag (run_list _ hrequest hlogged) more
      cases hverdict : verdict tag answer with
      | some settled =>
          rw [hverdict] at hrun hother
          refine ⟨[⟨request, answer⟩], by rw [hrun]; exact hother, ?_⟩
          rw [hrun]
          exact .last hrequest hanswer (by rw [hverdict])
      | none =>
          rw [hverdict] at hrun hother
          cases more with
          | zero =>
              refine ⟨[⟨request, answer⟩], by rw [hrun]; exact hother, ?_⟩
              rw [hrun]
              exact .last hrequest hanswer (by rw [hverdict]; exact ⟨rfl, rfl⟩)
          | succ more =>
              obtain ⟨during, hrest, hsearched⟩ := ih more (Nat.lt_succ_self more) (page + 1) after
                (log ++ [⟨request, answer⟩])
              rw [List.append_assoc] at hrest
              refine ⟨⟨request, answer⟩ :: during, by rw [hrun]; exact hother.trans hrest, ?_⟩
              rw [hrun]
              exact .next hrequest hanswer hverdict hsearched

end

/-! ### Pages of one list -/

section
variable {α : Type} {p : α → Bool} {list : List α} {count : Nat}

/-- Behind elements that are not looked for, the first one that is looked for comes where it comes
in the rest. -/
theorem find_drop_of_take (hcount : count ≤ list.length) (h : (list.take count).find? p = none) :
    list.find? p = (list.drop count).find? p ∧
      list.findIdx p = count + (list.drop count).findIdx p := by
  have hlength : (list.take count).length = count := by simp [hcount]
  have hidx : (list.take count).findIdx p = (list.take count).length := by
    rw [List.findIdx_eq_length]
    simpa using h
  constructor
  · conv_lhs => rw [← List.take_append_drop count list, List.find?_append, h, Option.none_or]
  · conv_lhs => rw [← List.take_append_drop count list, List.findIdx_append, hidx,
      if_neg (Nat.lt_irrefl _), hlength, Nat.add_comm]

/-- What is found in the first elements is found in all. -/
theorem find_of_take {a : α} (h : (list.take count).find? p = some a) :
    list.find? p = some a ∧ list.findIdx p < count := by
  have hlt : (list.take count).findIdx p < (list.take count).length := by
    rw [List.findIdx_lt_length]
    exact ⟨a, List.mem_of_find?_eq_some h, List.find?_some h⟩
  constructor
  · rw [← List.take_append_drop count list, List.find?_append, h, Option.some_or]
  · rw [List.findIdx_take, List.length_take] at hlt
    omega

end

/-- The elements of a list of releases that are on a page, where the first page is number zero. -/
def onPage (releases : List HostedRelease) (number : Nat) : List HostedRelease :=
  (releases.drop (pageSize * number)).take pageSize

/-- A host serves a list of releases: each page can be asked for, and its answer brings the
elements of the list that are on it. Behind the last full page there is one more, which may be
empty. -/
def Serves {σ : Type} (client : ReleaseClient) (transport : Http.Transport (StateM σ))
    (releases : List HostedRelease) : Prop :=
  ∀ number ≤ releases.length / pageSize, ∃ request,
    client.listRequest (number + 1) = .ok request ∧
    ∀ world, pageOf ((transport.send request).run world).1 = .ok (onPage releases number)

section
variable {σ : Type} {client : ReleaseClient} {transport : Http.Transport (StateM σ)} {tag : String}
  {more : Nat} {log : List Sent} {result : Except HostError (Option HostedRelease)}
  {releases : List HostedRelease}

/-- Behind pages that are full there is at least an empty one. -/
theorem le_pages {number : Nat} (h : pageSize * number ≤ releases.length) :
    number ≤ releases.length / pageSize := by
  rw [Nat.le_div_iff_mul_le (by decide), Nat.mul_comm]
  exact h

/-- A page that settles the search settles it for all that was to come. -/
theorem of_verdict_page {answer : Except String Http.Response}
    {settled : Except HostError (Option HostedRelease)}
    (hpage : pageOf answer = .ok (releases.take pageSize)) (h : verdict tag answer = some settled) :
    settled = .ok (releases.find? (·.tagName == tag)) ∧
      releases.findIdx (·.tagName == tag) < pageSize := by
  rw [verdict, hpage] at h
  cases hfind : (releases.take pageSize).find? (·.tagName == tag) with
  | some release =>
      simp only [hfind] at h
      cases h
      obtain ⟨hall, hidx⟩ := find_of_take hfind
      exact ⟨by rw [hall], hidx⟩
  | none =>
      simp only [hfind] at h
      by_cases hshort : (releases.take pageSize).length < pageSize
      · rw [if_pos hshort] at h
        cases h
        -- A short page is the last one, so what is not on it is nowhere.
        have hlength : releases.length < pageSize := by
          rw [List.length_take] at hshort
          omega
        rw [List.take_of_length_le (Nat.le_of_lt hlength)] at hfind
        exact ⟨by rw [hfind], Nat.lt_of_le_of_lt List.findIdx_le_length hlength⟩
      · rw [if_neg hshort] at h
        cases h

/-- The answer to a page that is asked for is the page. -/
theorem Searched.pageOf_eq (h : Searched client transport tag 1 more log result)
    (hserves : Serves client transport releases) {index : Nat} (hindex : index < log.length)
    (hnumber : index ≤ releases.length / pageSize) :
    pageOf log[index].answer = .ok (onPage releases index) := by
  obtain ⟨request, hrequest, hanswer⟩ := hserves index hnumber
  have hasked := h.asked index hindex
  rw [Nat.add_comm 1, hrequest] at hasked
  obtain rfl := Except.ok.inj hasked
  obtain ⟨world, hworld⟩ := h.answered index hindex
  rw [← hworld]
  exact hanswer world

/-- Where the first pages settled nothing they are full, and none of their releases has the tag. -/
theorem Searched.passed (h : Searched client transport tag 1 more log result)
    (hserves : Serves client transport releases) {count : Nat} (hcount : count ≤ log.length)
    (hunsettled : ∀ index (hindex : index < log.length), index < count →
      verdict tag log[index].answer = none) :
    pageSize * count ≤ releases.length ∧
      (releases.take (pageSize * count)).find? (·.tagName == tag) = none := by
  induction count with
  | zero => simp
  | succ count ih =>
      obtain ⟨hfull, hnone⟩ :=
        ih (by omega) fun index hindex hlt => hunsettled index hindex (by omega)
      -- An answer that settled nothing brought a full page without the tag.
      obtain ⟨page, hpage, hpageNone, hpageFull⟩ :=
        verdict_eq_none.mp (hunsettled count (by omega) (by omega))
      rw [h.pageOf_eq hserves (by omega) (le_pages hfull)] at hpage
      obtain rfl := Except.ok.inj hpage
      rw [onPage, List.length_take, List.length_drop] at hpageFull
      constructor
      · rw [Nat.mul_succ]
        omega
      · rw [Nat.mul_succ, List.take_add, List.find?_append, hnone]
        exact hpageNone

/-- A search in the pages of a list comes to an answer that settles it, since there is always one
more page that can be asked for behind full ones. -/
theorem Searched.settled_of_serves
    (h : Searched client transport tag 1 (lastPage - 1) log result)
    (hserves : Serves client transport releases)
    (hpages : (releases.length + (pageSize - 1)) / pageSize < lastPage) :
    log.getLast?.bind (verdict tag ·.answer) = some result := by
  have hending := h.ending
  cases hlast : log.getLast?.bind (verdict tag ·.answer) with
  | some settled =>
      rw [hlast] at hending
      rw [hending]
  | none =>
      rw [hlast] at hending
      obtain ⟨error, -, hfurther⟩ := hending
      -- No answer settled anything, so all of these pages are full and the next one is served as
      -- well.
      have hunsettled : ∀ index (hindex : index < log.length), index < log.length →
          verdict tag log[index].answer = none := by
        intro index hindex _
        by_cases hnext : index + 1 < log.length
        · exact h.unsettled index hnext
        · rw [List.getLast?_eq_getElem?, show log.length - 1 = index by omega,
            List.getElem?_eq_getElem hindex] at hlast
          exact hlast
      obtain ⟨hfull, -⟩ := h.passed hserves (Nat.le_refl _) hunsettled
      exfalso
      rcases hfurther with hunsendable | ⟨hlength, -⟩
      · obtain ⟨request, hrequest, -⟩ := hserves log.length (le_pages hfull)
        rw [Nat.add_comm, hunsendable] at hrequest
        cases hrequest
      · -- There are not that many pages.
        rw [pageSize, lastPage] at *
        omega

/-- A search in the pages of a list finds the first release of the list with the tag, if there is
one. It asks for the pages up to the one where this release is, or up to the first one that is not
full. -/
theorem Searched.of_serves (h : Searched client transport tag 1 (lastPage - 1) log result)
    (hserves : Serves client transport releases)
    (hpages : (releases.length + (pageSize - 1)) / pageSize < lastPage) :
    result = .ok (releases.find? (·.tagName == tag)) ∧
      log.length = releases.findIdx (·.tagName == tag) / pageSize + 1 := by
  have hlast := h.settled_of_serves hserves hpages
  have hpositive : 0 < log.length := by
    cases log with
    | nil => cases hlast
    | cons sent rest => exact Nat.succ_pos _
  -- All pages but the last one settled nothing, so the search is one in the list behind them.
  obtain ⟨hfull, hnone⟩ := h.passed hserves (Nat.sub_le log.length 1)
    fun index _ hlt => h.unsettled index (by omega)
  obtain ⟨hfind, hidx⟩ := find_drop_of_take hfull hnone
  have hindex : log.length - 1 < log.length := by omega
  rw [List.getLast?_eq_getElem?, List.getElem?_eq_getElem hindex, Option.bind_some] at hlast
  obtain ⟨hresult, hwithin⟩ :=
    of_verdict_page (h.pageOf_eq hserves hindex (le_pages hfull)) hlast
  constructor
  · rw [hresult, hfind]
  · rw [hidx, Nat.mul_add_div (by decide), Nat.div_eq_of_lt hwithin]
    omega

end

/-- **The search for a tag goes through the list of releases page by page, and stops.** Take any
answers, and a search with its requests written down. It asks for the pages one, two, three and so
on, up to the first answer that settles it. A failed request, a refusal or an answer that is no
list of releases is such an answer, and its error is the result. If the answers are the pages of
one list then the result is the first release of this list with the tag, or nothing if there is
none. The last page that is asked for is the one where the release is, or the first one that is
not full. -/
theorem find_walks_listing {σ : Type} (client : ReleaseClient)
    (transport : Http.Transport (StateM σ)) (tag : String) (world : σ) :
    let run := ((client.host transport).find tag).run world
    ∃ log, ((client.host (loggedTransport transport)).find tag).run ⟨world, []⟩ =
        (run.1, ⟨run.2, log⟩) ∧
      Searched client transport tag 1 (lastPage - 1) log run.1 ∧
      ∀ releases, Serves client transport releases →
        (releases.length + (pageSize - 1)) / pageSize < lastPage →
        run.1 = .ok (releases.find? (·.tagName == tag)) ∧
          log.length = releases.findIdx (·.tagName == tag) / pageSize + 1 := by
  intro run
  obtain ⟨log, hlogged, hsearched⟩ :=
    run_findFrom client transport tag 1 (lastPage - 1) world []
  exact ⟨log, hlogged, hsearched, fun releases hserves hpages =>
    hsearched.of_serves hserves hpages⟩

/-- A client for the releases of a repository. -/
def exampleClient : ReleaseClient :=
  .connect "https://api.github.com" "acme/tool" ⟨"token"⟩

/-- A release that has nothing but a tag. -/
def taggedRelease (id : UInt64) (tag : String) : HostedRelease :=
  ⟨id, tag, none, true, "", "", []⟩

/-- A hundred nightly releases, and a preview behind them. -/
def nightliesAndPreview : List HostedRelease :=
  List.replicate 100 (taggedRelease 1 "nightly") ++ [taggedRelease 2 "preview"]

/-- The number of the page that is asked for, if there are two. -/
def askedOf (request : Http.Request) : Nat :=
  if request.url.query = some "per_page=100&page=1" then 0 else 1

/-- A host with two pages of releases. -/
def twoPages (releases : List HostedRelease) : Http.Transport (StateM Unit) where
  send request :=
    pure (.ok ⟨200, ((toJson (onPage releases (askedOf request))).render .compact).toUTF8⟩)

/-- A page that is written is the page that is read. -/
theorem pageOf_toJson (releases : List HostedRelease) :
    pageOf (.ok ⟨200, ((toJson releases).render .compact).toUTF8⟩) = .ok releases := by
  have hsuccess :
      Http.Response.isSuccess ⟨200, ((toJson releases).render .compact).toUTF8⟩ = true :=
    rfl
  rw [pageOf, if_pos hsuccess, decode_toJson]

/-- The host of the example serves its releases on two pages. -/
theorem serves_twoPages :
    Serves exampleClient (twoPages nightliesAndPreview) nightliesAndPreview := by
  have hasked : ∀ number < 2, (exampleClient.listRequest (number + 1)).toOption.map askedOf =
      some number := by
    decide +kernel
  intro number hnumber
  have htwo : number < 2 := Nat.lt_succ_of_le hnumber
  cases hrequest : exampleClient.listRequest (number + 1) with
  | error error =>
      have hnone := hasked number htwo
      rw [hrequest] at hnone
      cases hnone
  | ok request =>
      have hsome := hasked number htwo
      rw [hrequest] at hsome
      refine ⟨request, rfl, fun _ => ?_⟩
      show pageOf (.ok ⟨200, ((toJson (onPage _ (askedOf request))).render .compact).toUTF8⟩) = _
      rw [pageOf_toJson, Option.some.inj hsome]

/-- A release on the second page is found with the second request. -/
theorem find_walks_listing_two_pages :
    Serves exampleClient (twoPages nightliesAndPreview) nightliesAndPreview ∧
      ∃ log after, ((exampleClient.host (loggedTransport (twoPages nightliesAndPreview))).find
          "preview").run ⟨(), []⟩ = (.ok (some (taggedRelease 2 "preview")), ⟨after, log⟩) ∧
        log.length = 2 := by
  obtain ⟨log, hlogged, -, hserved⟩ :=
    find_walks_listing exampleClient (twoPages nightliesAndPreview) "preview" ()
  obtain ⟨hresult, hlength⟩ := hserved nightliesAndPreview serves_twoPages (by decide)
  have hfind : nightliesAndPreview.find? (·.tagName == "preview") =
      some (taggedRelease 2 "preview") := by
    decide +kernel
  have hidx : nightliesAndPreview.findIdx (·.tagName == "preview") = 100 := by
    decide +kernel
  rw [hresult, hfind] at hlogged
  rw [hidx] at hlength
  exact ⟨serves_twoPages, log, _, hlogged, hlength⟩

end ReleasePipeline.Proofs
