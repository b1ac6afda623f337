import Mathlib.Data.List.Permutation
import SearchPhrase.Interpretation.Lemmas
import SearchPhrase.Proofs.CommandLine.Arguments
import SearchPhrase.Proofs.Record.QueryText
import SearchPhrase.Service.Answer

/-!
# One answer on every surface

A phrase can be posted, asked for in a query, or given on the command line.  However its request is
spelled, the service answers with what the command line prints, and adds the digest of the query
string that the command line prints in its other format.
-/

namespace SearchPhrase

/-- The fields of a request body for a phrase, perhaps with a location to prefer. -/
def RequestBody.fields (phrase : String) (location : Option String) : List (String × Json) :=
  ("query", .string phrase) ::
    location.toList.map fun location => ("defaultLocation", .string location)

namespace Request

/-- A request that posts a phrase, perhaps with a location to prefer.  The body may be laid out and
escaped in any way, and may give its fields in either order. -/
structure Posts (request : Request) (phrase : String) (location : Option String) : Prop where
  /-- The request is a post. -/
  method : request.method = .post
  /-- It is sent to where phrases are interpreted. -/
  path : request.path = "/api/v1/interpret"
  /-- Its body is declared to be JSON. -/
  json : request.contentType.any MediaType.isJson = true
  /-- Its body spells an object with the fields. -/
  body : ∃ fields, fields.Perm (RequestBody.fields phrase location) ∧
    Json.tokens request.body.toList = Json.tokensOf (.object fields)

/-- A request that asks for the interpretation of a phrase, which may be coded in any way that is
read back as the phrase. -/
structure Asks (request : Request) (phrase : String) : Prop where
  /-- The request asks for a resource. -/
  method : request.method = .get
  /-- It gives the phrase in a query. -/
  uri : ∃ coded : Text, request.uri.toList = "/api/v1/interpret?q=".toList ++ coded ∧
    '&' ∉ coded ∧ '#' ∉ coded ∧ Percent.decode? coded = some phrase.toList

end Request

/-- The command line prints a text for some arguments. -/
def CommandLine.Prints (arguments : List String) (output : String) : Prop :=
  ∃ phrase format location,
    command arguments = .ok (.interpret phrase format location) ∧
      interpret format location phrase = output

/-- A response says what the command line prints for a phrase with a location to prefer: it has the
fields of what is printed as JSON, and then the digest of what is printed as a query string. -/
def Response.SaysPrinted (response : Response) (phrase location : String) : Prop :=
  ∃ printed queryLine fields,
    CommandLine.Prints
      ["interpret", "--format=json", "--default-location=" ++ location, "--", phrase] printed ∧
    CommandLine.Prints
      ["interpret", "--format=query", "--default-location=" ++ location, "--", phrase]
      (queryLine ++ "\n") ∧
    Json.parse? printed.toList = some (.object fields) ∧
    response.status = 200 ∧
    Json.parse? response.body.toList =
      some (.object (fields ++ [("fingerprint",
        .string (String.ofList (Hex.ofBytes (Sha256.digest (Text.toBytes queryLine.toList)))))]))

theorem hasNumerals_fields (phrase : String) (location : Option String) :
    Json.HasNumerals (.object (RequestBody.fields phrase location)) := by
  apply Json.fieldsHaveNumerals_iff.2
  intro field member
  rcases List.mem_cons.1 member with rfl | member
  · trivial
  · obtain ⟨location, -, rfl⟩ := List.mem_map.1 member
    trivial

/-- A body as it is printed in the compact layout posts a phrase. -/
theorem Request.posts_compact (phrase : String) (location : Option String) :
    Request.Posts
      ⟨.post, "/api/v1/interpret", some "application/json",
        String.ofList (Json.object (RequestBody.fields phrase location)).compact⟩
      phrase location where
  method := rfl
  path := by
    have plain : ∀ mark ∈ ['#', '?'], mark ∉ "/api/v1/interpret".toList := by decide
    rw [Request.path, Request.target, Text.cutAt_of_not_mem (plain '#' (by decide)),
      Text.cutAt_of_not_mem (plain '?' (by decide))]
    exact String.ofList_toList
  json := by
    show MediaType.isJson "application/json" = true
    decide
  body := by
    refine ⟨_, .refl _, ?_⟩
    rw [String.toList_ofList, Json.tokens_compact (hasNumerals_fields phrase location)]

/-- A form-encoded text holds no character that is to be escaped. -/
theorem Percent.not_mem_encodeForm
    {c : Char}
    (reserved : isUnreserved c = false)
    (plain : c ∉ ['%', '+'])
    (text : Text) :
    c ∉ encodeForm text := by
  intro member
  obtain ⟨source, -, member⟩ := List.mem_flatMap.1 member
  rw [encodeFormChar] at member
  split at member
  · exact plain (by simp [List.mem_singleton.1 member])
  · have coded : c ∈ encode [source] := by simpa [encode] using member
    exact not_mem_encode reserved (fun same => plain (by simp [same])) [source] coded

/-- A phrase is asked for in either coding. -/
theorem Request.asks_coded
    {code : Text → Text}
    (known : code ∈ [Percent.encode, Percent.encodeForm])
    (phrase : String) :
    Request.Asks ⟨.get, "/api/v1/interpret?q=" ++ String.ofList (code phrase.toList), none, ""⟩
      phrase where
  method := rfl
  uri := by
    have marks : ∀ c ∈ ['&', '#'], Percent.isUnreserved c = false ∧ c ∉ ['%', '+'] := by decide
    have coded : (∀ c ∈ ['&', '#'], c ∉ code phrase.toList) ∧
        Percent.decode? (code phrase.toList) = some phrase.toList := by
      simp only [List.mem_cons, List.not_mem_nil, or_false] at known
      rcases known with rfl | rfl
      · refine ⟨fun c mark => ?_, Percent.isCoding_encode.decode? _⟩
        have plain : c ≠ '%' := fun same => (marks c mark).2 (by simp [same])
        exact Percent.not_mem_encode (marks c mark).1 plain _
      · refine ⟨fun c mark => ?_, Percent.isCoding_encodeForm.decode? _⟩
        exact Percent.not_mem_encodeForm (marks c mark).1 (marks c mark).2 _
    obtain ⟨absent, formed⟩ := coded
    refine ⟨code phrase.toList, ?_, absent '&' (by decide), absent '#' (by decide), formed⟩
    exact (String.toList_append).trans (congrArg _ String.toList_ofList)

namespace RequestBody

/-- A body is read from the tokens of its fields, in either order. -/
theorem ofTokens_fields
    {phrase : String}
    {location : Option String}
    {given : List (String × Json)}
    (order : given.Perm (fields phrase location)) :
    ofTokens (Json.tokensOf (.object given)) = .ok ⟨phrase, location⟩ := by
  cases location with
  | none =>
      obtain rfl := List.perm_singleton.1 order
      simp [Json.tokensOf, Json.fieldTokens, ofTokens, takeFields, takeField, takeColon, takeString,
        Draft.finish, bind, Except.bind]
  | some location =>
      rcases List.perm_pair.1 order with rfl | rfl
      all_goals
        simp [Json.tokensOf, Json.fieldTokens, ofTokens, takeFields, takeField, takeColon,
          takeString, takeOptionalString, Except.map, Draft.finish, bind, Except.bind]

end RequestBody

namespace Utf8

/-- Where every byte is part of a character, nothing has to be replaced. -/
theorem decodeLossy_of_decode?
    {bytes : List UInt8}
    {text : Text}
    (formed : decode? bytes = some text) :
    decodeLossy bytes = text := by
  rw [decode?] at formed
  rw [decodeLossy]
  generalize scan bytes = parts at formed
  induction parts generalizing text with
  | nil => simpa using formed
  | cons part parts ih =>
      simp only [List.mapM_cons, id, Option.bind_eq_bind, Option.bind_eq_some_iff, Option.pure_def,
        Option.some.injEq] at formed
      obtain ⟨c, rfl, rest, others, rfl⟩ := formed
      rw [List.map_cons, ih others, Option.getD_some]

end Utf8

namespace Service

/-- The query of a request for a phrase has the phrase for its only value. -/
theorem values_of_asks
    {request : Request}
    {phrase : String}
    (asks : request.Asks phrase) :
    request.path = "/api/v1/interpret" ∧ Form.values "q" request.query = [phrase.toList] := by
  obtain ⟨-, coded, uri, noMark, noFragment, formed⟩ := asks
  have lossy : Percent.decodeLossy coded = phrase.toList := Utf8.decodeLossy_of_decode? formed
  have plain : '#' ∉ "/api/v1/interpret?q=".toList ++ coded := by
    have known : '#' ∉ "/api/v1/interpret?q=".toList := by decide
    exact fun member => (List.mem_append.1 member).elim known noFragment
  have target : request.target = ("/api/v1/interpret".toList, some ('q' :: '=' :: coded)) := by
    have cut : Text.cutAt '?' ("/api/v1/interpret?q=".toList ++ coded) =
        ("/api/v1/interpret".toList, some ('q' :: '=' :: coded)) :=
      @Text.cutAt_append_cons '?' "/api/v1/interpret".toList (by decide) _
    rw [Request.target, uri, Text.cutAt_of_not_mem plain, cut]
  have parts : List.splitOn '&' ('q' :: '=' :: coded) = ['q' :: '=' :: coded] := by
    have unmarked : ∀ part ∈ ['q' :: '=' :: coded], '&' ∉ part := by simpa using noMark
    have single := List.splitOn_intercalate '&' unmarked (List.cons_ne_nil _ _)
    rwa [List.intercalate_singleton] at single
  have pair : Form.decodePair ('q' :: '=' :: coded) = ("q".toList, phrase.toList) := by
    have cut : Text.cutAt '=' ('q' :: '=' :: coded) = (['q'], some coded) :=
      @Text.cutAt_append_cons '=' ['q'] (by decide) coded
    rw [Form.decodePair, cut]
    simp only [Option.getD_some, lossy]
    rfl
  refine ⟨by rw [Request.path, target, String.ofList_toList], ?_⟩
  rw [Form.values, Request.query, target, Option.getD_some, Form.pairs, parts]
  simp [pair]

end Service

namespace CommandLine

/-- A phrase after the double hyphen is printed in the format and with the location given before
it. -/
theorem prints_interpret
    {name : String}
    {format : Format}
    (known : Format.ofName? name = some format)
    (phrase location : String) :
    Prints ["interpret", "--format=" ++ name, "--default-location=" ++ location, "--", phrase]
      (interpret format (some location) phrase) := by
  refine ⟨phrase, format, some location, ?_, rfl⟩
  have read := command_interpretArguments phrase (some name) (some location)
  rwa [Option.getD_some, known] at read

end CommandLine

namespace Service

/-- What is posted as JSON and read as a request body is answered with the location of the request,
or else with that of the service. -/
theorem respond_of_ofText
    {request : Request}
    {body : RequestBody}
    (method : request.method = .post)
    (path : request.path = "/api/v1/interpret")
    (json : request.contentType.any MediaType.isJson = true)
    (isRead : RequestBody.ofText request.body.toList = .ok body)
    (service : Service) :
    service.respond request =
      success (answer body.query (body.defaultLocation.or service.defaultLocation)) := by
  have resource : resource? request.path = some .interpretation := by
    rw [path]
    rfl
  rw [respond, method, resource]
  simp only [postInterpret, json, isRead, if_true]

/-- A phrase that is posted is answered with the location of the request, or else with that of the
service. -/
theorem respond_of_posts
    {request : Request}
    {phrase : String}
    {location : Option String}
    (posts : request.Posts phrase location)
    (service : Service) :
    service.respond request = success (answer phrase (location.or service.defaultLocation)) := by
  obtain ⟨fields, order, tokens⟩ := posts.body
  have body : RequestBody.ofText request.body.toList = .ok ⟨phrase, location⟩ := by
    rw [RequestBody.ofText, tokens, RequestBody.ofTokens_fields order]
  exact respond_of_ofText posts.method posts.path posts.json body service

/-- A phrase in a query is answered with the location of the service. -/
theorem respond_of_asks
    {request : Request}
    {phrase : String}
    (asks : request.Asks phrase)
    (service : Service) :
    service.respond request = success (answer phrase service.defaultLocation) := by
  obtain ⟨path, values⟩ := values_of_asks asks
  have resource : resource? request.path = some .interpretation := by
    rw [path]
    rfl
  rw [respond, asks.method, resource]
  simp only [get, getInterpret, values, String.ofList_toList]

/-- The body of a successful answer spells the answer. -/
theorem parse?_answer (phrase : String) (location : Option String) :
    Json.parse? (success (answer phrase location)).body.toList = some (answer phrase location) := by
  have fields := ((Interpretation.ofPhrase phrase).preferLocation location).hasNumerals_toJson
  have plain : Json.HasNumerals (answer phrase location) := by
    rw [answer, answerFields, Json.HasNumerals, Json.fieldsHaveNumerals_append]
    exact ⟨fields, trivial, trivial⟩
  rw [success, String.toList_ofList]
  exact Json.parse?_compact plain

/-- The line break after a printed value is no part of it. -/
theorem parse?_line_indented
    {value : Json}
    (plain : Json.HasNumerals value) :
    Json.parse? (CommandLine.line value.indented) = some value := by
  apply Json.parse?_eq_some_of_tokens
  have printed := Json.tokens_indentedAt_append 0 value plain
    (Json.endsNumber_cons (c := '\n') (by decide) [])
  have nothing : Json.tokens ['\n'] = [] := rfl
  rwa [nothing, List.append_nil] at printed

/-- The surfaces agree on every phrase.  A phrase that is posted with a location is answered with
what the command line prints for it, and one that is asked for in a query is answered as if it was
posted. -/
theorem surfaces_agree (service : Service) (phrase : String) :
    (∀ request location, Request.Posts request phrase (some location) →
      (service.respond request).SaysPrinted phrase location) ∧
    ∀ asked posted, Request.Asks asked phrase → Request.Posts posted phrase none →
      service.respond asked = service.respond posted := by
  constructor
  · intro request location posts
    let interpretation := (Interpretation.ofPhrase phrase).preferLocation (some location)
    have answered := respond_of_posts posts service
    rw [Option.some_or] at answered
    refine ⟨_, String.ofList interpretation.filters.queryText, interpretation.jsonFields,
      @CommandLine.prints_interpret "json" .json rfl phrase location, ?_, ?_, ?_, ?_⟩
    · have printed := @CommandLine.prints_interpret "query" .query rfl phrase location
      rwa [CommandLine.interpret, CommandLine.printed, CommandLine.line, String.ofList_append]
        at printed
    · rw [CommandLine.interpret, CommandLine.printed, String.toList_ofList]
      exact parse?_line_indented interpretation.hasNumerals_toJson
    · rw [answered]
      rfl
    · rw [answered, parse?_answer, String.toList_ofList]
      rfl
  · intro asked posted asks posts
    rw [respond_of_asks asks, respond_of_posts posts, Option.none_or]

/-- A phrase with a line break, a blank and a quotation mark is answered alike. -/
theorem surfaces_agree_quoted :
    (respond {} ⟨.post, "/api/v1/interpret", some "application/json",
      String.ofList (Json.object (RequestBody.fields "a \"sofa\"\nunder $500"
        (some "Napier"))).compact⟩).SaysPrinted "a \"sofa\"\nunder $500" "Napier" ∧
    respond ⟨some "Taupo"⟩ ⟨.get, "/api/v1/interpret?q=" ++
        String.ofList (Percent.encodeForm "a \"sofa\"\nunder $500".toList), none, ""⟩ =
      respond ⟨some "Taupo"⟩ ⟨.post, "/api/v1/interpret", some "application/json",
        String.ofList (Json.object (RequestBody.fields "a \"sofa\"\nunder $500" none)).compact⟩ :=
  ⟨(surfaces_agree {} _).1 _ _ (Request.posts_compact _ _),
    (surfaces_agree ⟨some "Taupo"⟩ "a \"sofa\"\nunder $500").2 _ _
      (Request.asks_coded (by simp) _) (Request.posts_compact _ _)⟩

end Service
end SearchPhrase
