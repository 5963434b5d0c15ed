import Mathlib.Data.List.DropRight
import ReleasePipeline.Config.Validation
import ReleasePipeline.Hosting.Client
import ReleasePipeline.Proofs.Path

/-!
# `ReleasePipeline.Proofs.Hosting.Repository`: the repository in the addresses of its releases

A repository is an owner and a name with a slash between them. Whether a text is one is told by
its first slash, while a client takes the slashes off both of its ends. `repository_in_address`
says that the two fit together: what is accepted as a repository has no slashes at its ends, so it
stands in the address of its releases as it is. This address is the base without the slashes at
its end, and behind it the four parts that were added, none of them empty. A client that is made
of what another one shows is that client.
-/

set_option autoImplicit false

namespace ReleasePipeline.Proofs

open Config (isRepository)

/-- What may stand between two slashes. -/
structure IsPart (text : String) : Prop where
  notEmpty : text ≠ ""
  noSlash : '/' ∉ text.toList

/-- What a text with a slash in it has to be like to be a repository. -/
theorem isRepository_of_first_slash {text : String} {owner name : List Char}
    (htext : text.toList = owner ++ '/' :: name) (howner : '/' ∉ owner) :
    isRepository text = true ↔ owner ≠ [] ∧ name ≠ [] ∧ '/' ∉ name := by
  have hall : ∀ c ∈ owner, decide (c ≠ '/') = true := fun c hc =>
    decide_eq_true fun heq => howner (heq ▸ hc)
  have htake : text.toList.takeWhile (· ≠ '/') = owner := by
    rw [htext, List.takeWhile_append_of_pos hall]
    exact List.append_nil owner
  have hdrop : text.toList.dropWhile (· ≠ '/') = '/' :: name := by
    rw [htext, List.dropWhile_append_of_pos hall]
    rfl
  unfold isRepository
  rw [htake, hdrop]
  simp [and_assoc]

/-- A text is a repository exactly if it is two parts with a slash between them. -/
theorem isRepository_iff {text : String} :
    isRepository text = true ↔
      ∃ owner name, IsPart owner ∧ IsPart name ∧ text = owner ++ "/" ++ name := by
  constructor
  · intro h
    by_cases hslash : '/' ∈ text.toList
    · obtain ⟨owner, name, htext, howner⟩ := List.eq_append_cons_of_mem hslash
      obtain ⟨hsome, hname, hnone⟩ := (isRepository_of_first_slash htext howner).mp h
      refine ⟨String.ofList owner, String.ofList name, ⟨?_, ?_⟩, ⟨?_, ?_⟩, ?_⟩
      · exact mt String.toList_eq_nil_iff.mpr (by rwa [String.toList_ofList])
      · rwa [String.toList_ofList]
      · exact mt String.toList_eq_nil_iff.mpr (by rwa [String.toList_ofList])
      · rwa [String.toList_ofList]
      · rw [← String.toList_inj, toList_append_slash, htext, String.toList_ofList,
          String.toList_ofList]
    · -- Without a slash there is no name behind an owner.
      have hdrop : text.toList.dropWhile (· ≠ '/') = [] :=
        List.dropWhile_eq_nil_iff.mpr fun c hc => decide_eq_true fun heq => hslash (heq ▸ hc)
      unfold isRepository at h
      rw [hdrop] at h
      cases h
  · rintro ⟨owner, name, howner, hname, rfl⟩
    refine (isRepository_of_first_slash (toList_append_slash owner name) howner.noSlash).mpr ?_
    exact ⟨mt String.toList_eq_nil_iff.mp howner.notEmpty,
      mt String.toList_eq_nil_iff.mp hname.notEmpty, hname.noSlash⟩

/-- What publishing needs is there exactly if there are a credential and a repository. -/
theorem validateForPublish_eq_ok {config : Config} {token : Secret} {repository : String} :
    config.validateForPublish = .ok (token, repository) ↔
      config.credential = some token ∧ config.releaseRepository = some repository ∧
        isRepository repository = true := by
  unfold Config.validateForPublish
  cases config.credential with
  | none => exact ⟨nofun, nofun⟩
  | some credential =>
      cases config.releaseRepository with
      | none => exact ⟨nofun, nofun⟩
      | some text =>
          dsimp only
          split
          · next hvalid =>
              constructor
              · rintro ⟨⟩
                exact ⟨rfl, rfl, hvalid⟩
              · rintro ⟨⟨⟩, ⟨⟩, -⟩
                rfl
          · next hinvalid =>
              constructor
              · exact nofun
              · rintro ⟨-, ⟨⟩, hvalid⟩
                exact absurd hvalid hinvalid

/-! ### What a client makes of an address -/

/-- The slashes at the end are dropped from the right. -/
theorem dropTrailingSlashes_eq (text : List Char) :
    dropTrailingSlashes text = text.rdropWhile (· == '/') :=
  rfl

/-- The slashes at the end of a text are all that is dropped. -/
theorem dropTrailingSlashes_append (text : List Char) :
    ∃ count, text = dropTrailingSlashes text ++ List.replicate count '/' := by
  have hslashes :
      text.rtakeWhile (· == '/') = List.replicate (text.rtakeWhile (· == '/')).length '/' := by
    refine List.eq_replicate_of_mem fun c hc => ?_
    exact eq_of_beq (List.mem_rtakeWhile_imp (p := (· == '/')) hc)
  refine ⟨(text.rtakeWhile (· == '/')).length, ?_⟩
  rw [dropTrailingSlashes_eq, ← hslashes]
  exact List.rdropWhile_append_rtakeWhile.symm

/-- None is left. -/
theorem getLast?_dropTrailingSlashes (text : List Char) :
    (dropTrailingSlashes text).getLast? ≠ some '/' := by
  intro hlast
  obtain ⟨front, hfront⟩ := List.getLast?_eq_some_iff.mp hlast
  have hkept : dropTrailingSlashes (front ++ ['/']) = front ++ ['/'] := by
    rw [← hfront]
    exact List.rdropWhile_idempotent _ _
  rw [dropTrailingSlashes_eq, List.rdropWhile_concat_pos _ _ _ rfl] at hkept
  have hle := (List.rdropWhile_prefix (· == '/') (l := front)).length_le
  rw [hkept, List.length_append] at hle
  exact Nat.not_succ_le_self _ hle

/-- A text without slashes at its end is left alone. -/
theorem dropTrailingSlashes_of_getLast? {text : List Char} (h : text.getLast? ≠ some '/') :
    dropTrailingSlashes text = text := by
  obtain ⟨count, htext⟩ := dropTrailingSlashes_append text
  cases count with
  | zero => exact (htext.trans (List.append_nil _)).symm
  | succ count =>
      refine absurd ?_ h
      rw [htext, List.replicate_succ', ← List.append_assoc]
      exact List.getLast?_concat

/-- The address that a client keeps. -/
theorem toList_connect_baseUrl (base repository : String) (token : Secret) :
    (ReleaseClient.connect base repository token).baseUrl.toList =
      dropTrailingSlashes base.toList :=
  String.toList_ofList

section
variable {owner name : String} (howner : IsPart owner) (hname : IsPart name)
include howner hname

/-- There are no slashes at the ends of a repository, so a client keeps it as it is. -/
theorem connect_repository (base : String) (token : Secret) :
    (ReleaseClient.connect base (owner ++ "/" ++ name) token).repository =
      owner ++ "/" ++ name := by
  -- The owner does not begin with a slash and the name does not end in one, so nothing is dropped.
  have hfront : (owner ++ "/" ++ name).toList.dropWhile (· == '/') =
      (owner ++ "/" ++ name).toList := by
    rw [toList_append_slash]
    cases hchars : owner.toList with
    | nil => exact absurd (String.toList_eq_nil_iff.mp hchars) howner.notEmpty
    | cons c rest =>
        have hc : ¬ (c == '/') = true := fun heq =>
          howner.noSlash (by rw [hchars, eq_of_beq heq]; exact List.mem_cons_self)
        exact List.dropWhile_cons_of_neg hc
  have hback : (owner ++ "/" ++ name).toList.getLast? ≠ some '/' := by
    have hsome : name.toList ≠ [] := mt String.toList_eq_nil_iff.mp hname.notEmpty
    rw [toList_append_slash, List.append_cons, List.getLast?_append_of_ne_nil _ hsome]
    exact fun hlast => hname.noSlash (List.mem_of_getLast? hlast)
  unfold ReleaseClient.connect
  dsimp only
  rw [hfront, dropTrailingSlashes_of_getLast? hback, String.ofList_toList]

/-- A client that is made of what another one shows is that client. -/
theorem connect_connect (base : String) (token : Secret) :
    let client := ReleaseClient.connect base (owner ++ "/" ++ name) token
    ReleaseClient.connect client.baseUrl client.repository token = client := by
  intro client
  have hbase : (ReleaseClient.connect client.baseUrl client.repository token).baseUrl =
      client.baseUrl := by
    rw [← String.toList_inj, toList_connect_baseUrl, toList_connect_baseUrl]
    exact dropTrailingSlashes_of_getLast? (getLast?_dropTrailingSlashes _)
  have hrepository : (ReleaseClient.connect client.baseUrl client.repository token).repository =
      client.repository := by
    rw [connect_repository howner hname base token]
    exact connect_repository howner hname client.baseUrl token
  exact congrArg₂ (ReleaseClient.mk · · token) hbase hrepository

/-! ### The address of all releases -/

/-- The address of all releases has four parts more than that of the host. -/
theorem splitOn_releasesUrl (base : String) (token : Secret) :
    let client := ReleaseClient.connect base (owner ++ "/" ++ name) token
    client.releasesUrl = client.baseUrl ++ "/repos/" ++ owner ++ "/" ++ name ++ "/releases" ∧
    client.releasesUrl.toList.splitOn '/' = client.baseUrl.toList.splitOn '/' ++
      ["repos".toList, owner.toList, name.toList, "releases".toList] := by
  intro client
  have hurl : client.releasesUrl =
      client.baseUrl ++ "/" ++ "repos" ++ "/" ++ (owner ++ "/" ++ name) ++ "/" ++ "releases" := by
    unfold ReleaseClient.releasesUrl
    rw [connect_repository howner hname base token]
    simp only [String.append_assoc]
    rfl
  -- A slash in the middle cuts a text into the pieces of both sides.
  have hparts : ∀ first second : String, (first ++ "/" ++ second).toList.splitOn '/' =
      first.toList.splitOn '/' ++ second.toList.splitOn '/' := by
    intro first second
    rw [toList_append_slash]
    exact List.splitOnP_append_cons _ _ (beq_self_eq_true '/')
  refine ⟨?_, ?_⟩
  · rw [hurl]
    simp only [String.append_assoc]
    rfl
  · rw [hurl, hparts, hparts, hparts, hparts, List.splitOn_eq_singleton howner.noSlash,
      List.splitOn_eq_singleton hname.noSlash, List.append_assoc, List.append_assoc]
    rfl

end

/-- **A repository stands in the address of its releases.** What publishing needs is there exactly
if there are a credential and a repository, which is two parts with a slash between them, and both
are returned as they are. A client for such a repository leaves it as it is, at any address. The
address of its releases is the base without the slashes at its end, and behind it four parts that
are not empty. A client that is made again of what this one has is the same. -/
theorem repository_in_address (config : Config) (token : Secret) (repository : String) :
    (config.validateForPublish = .ok (token, repository) ↔
      config.credential = some token ∧ config.releaseRepository = some repository ∧
        ∃ owner name, IsPart owner ∧ IsPart name ∧ repository = owner ++ "/" ++ name) ∧
    (config.validateForPublish = .ok (token, repository) → ∀ base : String,
      let client := ReleaseClient.connect base repository token
      client.repository = repository ∧
      (∃ count, base.toList = client.baseUrl.toList ++ List.replicate count '/') ∧
      client.baseUrl.toList.getLast? ≠ some '/' ∧
      (∃ owner name, IsPart owner ∧ IsPart name ∧ repository = owner ++ "/" ++ name ∧
        client.releasesUrl = client.baseUrl ++ "/repos/" ++ owner ++ "/" ++ name ++ "/releases" ∧
        client.releasesUrl.toList.splitOn '/' = client.baseUrl.toList.splitOn '/' ++
          ["repos".toList, owner.toList, name.toList, "releases".toList]) ∧
      ReleaseClient.connect client.baseUrl client.repository token = client) := by
  rw [validateForPublish_eq_ok, isRepository_iff]
  refine ⟨Iff.rfl, ?_⟩
  rintro ⟨-, -, owner, name, howner, hname, rfl⟩ base
  refine ⟨connect_repository howner hname base token, ?_, ?_, ?_,
    connect_connect howner hname base token⟩
  · rw [toList_connect_baseUrl]
    exact dropTrailingSlashes_append base.toList
  · rw [toList_connect_baseUrl]
    exact getLast?_dropTrailingSlashes base.toList
  · exact ⟨owner, name, howner, hname, rfl, splitOn_releasesUrl howner hname base token⟩

/-- What a base with a path and slashes at its end comes to. -/
theorem repository_in_address_seeker :
    let config := { Config.ofBinary "seeker" with
      credential := some ⟨"t0ken"⟩, releaseRepository := some "owner/seeker" }
    let client := ReleaseClient.connect "https://git.example.test//api//" "owner/seeker" ⟨"t0ken"⟩
    config.validateForPublish = .ok (⟨"t0ken"⟩, "owner/seeker") ∧
    client.repository = "owner/seeker" ∧
    client.releasesUrl = "https://git.example.test//api/repos/owner/seeker/releases" ∧
    ReleaseClient.connect client.baseUrl client.repository ⟨"t0ken"⟩ = client := by
  intro config client
  obtain ⟨hvalid, hclient⟩ := repository_in_address config ⟨"t0ken"⟩ "owner/seeker"
  have haccepted : config.validateForPublish = .ok (⟨"t0ken"⟩, "owner/seeker") :=
    hvalid.mpr ⟨rfl, rfl, "owner", "seeker", ⟨by decide, by decide⟩, ⟨by decide, by decide⟩, rfl⟩
  obtain ⟨hrepository, -, -, -, hagain⟩ := hclient haccepted "https://git.example.test//api//"
  exact ⟨haccepted, hrepository, by decide +kernel, hagain⟩

end ReleasePipeline.Proofs
