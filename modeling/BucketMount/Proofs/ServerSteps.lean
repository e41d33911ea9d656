import BucketMount.Cluster.Server

/-!
# Steps of a cluster's server

A request that passes concerns a text that is stored under its path. A read hands out what
this text is decoded to and changes nothing; a replacement stores the document of the new
object in its place. Both are sent to the same path if they are for the same object.

This is said of clusters without faults. Of a request that fails nothing is said.
-/

namespace BucketMount

namespace Cluster

variable {α : Type} {format : Format α} {cluster : Cluster}

/-- A cluster without faults answers from what it stores. -/
theorem answer_faultless {cluster : Cluster} (faultless : cluster.faults = [])
    (request : Http.Request) : cluster.answer request = serve request cluster := by
  have unplanned (access : Access) : cluster.meet access = (none, cluster) := by
    obtain ⟨objects, faults⟩ := cluster
    subst faultless
    rfl
  cases sort : accessOf? request <;> simp [answer, sort, unplanned]

/-- A request that passes concerns a text that is stored, is answered with a text of the
format, and leaves behind what the server makes of it. -/
theorem send_passed (faultless : cluster.faults = []) {request : Http.Request} {value : α}
    (passed : (Http.send transport format request cluster).result = .ok value) :
    ∃ text, cluster.get? request.target.path = some text ∧
      format.ofText (serve request cluster).1.body = .ok value ∧
      (Http.send transport format request cluster).state = (serve request cluster).2 := by
  have decodes (body : String) (next : Cluster)
      (served : serve request cluster = (⟨200, body⟩, next)) :
      format.ofText (serve request cluster).1.body = .ok value ∧
      (Http.send transport format request cluster).state = (serve request cluster).2 := by
    simp only [Http.send, transport, answer_faultless faultless, served] at passed ⊢
    cases decoded : format.ofText body <;>
      simp_all [Http.validStatus, Http.Response.object, Http.refuses]
  cases stored : cluster.get? request.target.path with
  | none =>
    simp [Http.send, transport, answer_faultless faultless, serve, stored, refuse,
      Http.validStatus, Http.Response.object, Http.refuses] at passed
  | some text =>
    refine ⟨text, rfl, ?_⟩
    cases method : request.method with
    | get => exact decodes text cluster (by simp [serve, stored, method])
    | put =>
      let body := request.body.getD ""
      exact decodes body (cluster.put request.target.path body)
        (by simp [serve, stored, method, body])

/-- An object that is found is what the text under the path of the request is decoded to. -/
theorem read_found (faultless : cluster.faults = []) {address : Address} {value : α}
    (found : (Http.read transport format address cluster).result = .ok (some value)) :
    ∃ target text, Http.targetOf address "" = .ok target ∧
      cluster.get? target.path = some text ∧ format.ofText text = .ok value ∧
      (Http.read transport format address cluster).state = cluster := by
  cases addressed : Http.targetOf address "" with
  | error fault => simp [Http.read, addressed, Reply.quiet] at found
  | ok target =>
    simp only [Http.read, addressed] at found ⊢
    have passed : (Http.send transport format ⟨.get, target, none⟩ cluster).result =
        .ok value := by
      cases reached : (Http.send transport format ⟨.get, target, none⟩ cluster).result with
      | error failure =>
        by_cases absent : failure.isAbsence = true <;>
          simp [reached, Http.optionalResult, absent] at found
      | ok other => simpa [reached, Http.optionalResult] using found
    obtain ⟨text, stored, decoded, left⟩ := send_passed faultless passed
    have served : serve ⟨.get, target, none⟩ cluster = (⟨200, text⟩, cluster) := by
      simp only [serve, stored]
    rw [served] at decoded left
    exact ⟨target, text, rfl, stored, decoded, left⟩

/-- What the text under the path of a request is decoded to is found. -/
theorem read_passes (faultless : cluster.faults = []) {address : Address} {target : Http.Target}
    {text : String} {value : α} (addressed : Http.targetOf address "" = .ok target)
    (stored : cluster.get? target.path = some text) (decoded : format.ofText text = .ok value) :
    (Http.read transport format address cluster).result = .ok (some value) := by
  have served : serve ⟨.get, target, none⟩ cluster = (⟨200, text⟩, cluster) := by
    simp only [serve, stored]
  simp [Http.read, addressed, Http.send, transport, answer_faultless faultless, served,
    Http.validStatus, Http.Response.object, Http.refuses, decoded, Http.optionalResult]

/-- An object that was replaced is stored under the path of the request. -/
theorem replace_passed (faultless : cluster.faults = []) {address : Address} {value answer : α}
    (passed : (Http.replace transport format address value cluster).result = .ok answer) :
    ∃ target, Http.targetOf address "?" = .ok target ∧
      (Http.replace transport format address value cluster).state =
        cluster.put target.path (format.toText value) := by
  cases addressed : Http.targetOf address "?" with
  | error fault => simp [Http.replace, addressed, Reply.quiet] at passed
  | ok target =>
    simp only [Http.replace, addressed] at passed ⊢
    obtain ⟨text, stored, _, left⟩ := send_passed faultless passed
    refine ⟨target, rfl, left.trans ?_⟩
    simp only [serve, stored, Option.getD_some]

end Cluster

/-- The path of a target ends in front of the first question mark or number sign. -/
theorem Http.Target.ofCharacters_path {characters : List Char} {target : Http.Target}
    (read : Http.Target.ofCharacters characters = .ok target) :
    target.path = String.ofList (characters.takeWhile fun character =>
      character != '?' && character != '#') := by
  rw [ofCharacters] at read
  split at read
  · cases read
  split at read
  · dsimp only at read
    split at read
    · cases read
    · exact Except.ok.inj read ▸ rfl
  · exact Except.ok.inj read ▸ rfl

/-- The path of a request is that of the object up to the first question mark or number sign. -/
theorem Http.targetOf_path {address : Address} {suffix : String} {target : Http.Target}
    (addressed : Http.targetOf address suffix = .ok target) :
    target.path = String.ofList ((address.path ++ suffix).toList.takeWhile fun character =>
      character != '?' && character != '#') := by
  simp only [Http.targetOf] at addressed
  split at addressed
  · cases addressed
  split at addressed
  · cases addressed
  cases parsed : Http.Target.ofCharacters (address.path ++ suffix).toList with
  | error fault =>
    rw [parsed] at addressed
    cases addressed
  | ok other =>
    rw [parsed] at addressed
    obtain rfl : other = target := Except.ok.inj addressed
    exact Http.Target.ofCharacters_path parsed

/-- An object is replaced where it is read: the question mark behind the path is no part of
it. -/
theorem Http.targetOf_same_path {address : Address} {source target : Http.Target}
    (read : Http.targetOf address "" = .ok source)
    (replaced : Http.targetOf address "?" = .ok target) : target.path = source.path := by
  rw [targetOf_path read, targetOf_path replaced, String.toList_append, String.toList_append,
    List.takeWhile_append, List.takeWhile_append]
  simp

end BucketMount
