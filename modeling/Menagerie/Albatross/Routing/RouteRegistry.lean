import Menagerie.Albatross.Routing.UrlDecode

/-!
# The route registry

`RouteRegistry`: registration of routes, the freeze, and the lookup. A handler that is set is a
value of an arbitrary type, and one that is not set is absent.
-/

namespace Menagerie.Albatross

open Beaver Function

/-- `HttpMethod`. -/
inductive HttpMethod
  | unknown | get | post | put | patch | del | head | options
  deriving DecidableEq, Repr

/-- The methods from slot 1 on. -/
def HttpMethod.registrable : List HttpMethod :=
  [.get, .post, .put, .patch, .del, .head, .options]

/-- `PathNormalization`. -/
inductive PathNormalization
  | none | collapseTrailingSlash | collapseMultiSlash
  deriving DecidableEq, Repr

/-- `RouteConflictError`. -/
structure RouteConflictError where
  method : HttpMethod
  path : Text
  detail : Text
  deriving DecidableEq

/-- What `add_route` throws, with its text. -/
inductive RegistrationError
  | logicError (what : Text)
  | invalidArgument (what : Text)
  deriving DecidableEq

/-- Why a lookup fails. -/
inductive LookupError
  | notFound (resource id : Text)
  | methodNotAllowed (allowed : List HttpMethod)
  deriving DecidableEq

/-- `PathSegment`: a literal text, or the name of a parameter. -/
structure PathSegment where
  text : Text
  isParam : Bool
  deriving DecidableEq

variable {Handler : Type}

/-- Handlers by method. -/
abbrev MethodSlots (Handler : Type) := HttpMethod → Option Handler

/-- `ParamTemplate`. -/
structure ParamTemplate (Handler : Type) where
  segments : List PathSegment
  byMethod : MethodSlots Handler

/-- A slot of a template is filled. -/
def ParamTemplate.setMethod (template : ParamTemplate Handler) (method : HttpMethod)
    (handler : Handler) : ParamTemplate Handler :=
  { template with byMethod := update template.byMethod method (some handler) }

/-- `ResolvedRoute`. -/
structure ResolvedRoute (Handler : Type) where
  handler : Handler
  pathParams : List (Text × Text)
  deriving DecidableEq

/-- `RouteRegistry`. -/
structure RouteRegistry (Handler : Type) where
  frozen : Bool := false
  norm : PathNormalization
  exact : Text → Option (MethodSlots Handler) := fun _ => none
  parametric : List (ParamTemplate Handler) := []
  conflicts : List RouteConflictError := []

/-- The pieces of a text between its slashes. -/
def splitSlash : Text → List Text
  | [] => [[]]
  | c :: rest =>
    if c = '/' then [] :: splitSlash rest
    else
      match splitSlash rest with
      | [] => [[c]]
      | segment :: more => (c :: segment) :: more

/-- The segments of a path. -/
def segmentsOf : Text → List Text
  | [] => []
  | _ :: rest => splitSlash rest

/-- The loop that leaves out each slash after a slash. -/
def collapseSlashes : Bool → Text → Text
  | _, [] => []
  | prevSlash, c :: rest =>
    if c = '/' ∧ prevSlash then collapseSlashes prevSlash rest
    else c :: collapseSlashes (c = '/') rest

/-- One slash is removed at the end of a longer text. -/
def stripTrailingSlash (path : Text) : Text :=
  if 1 < path.length ∧ path.getLast? = some '/' then path.dropLast else path

/-- `normalize_owned`. -/
def normalizeOwned (norm : PathNormalization) (path : Text) : Text :=
  let out := if norm = .collapseMultiSlash then collapseSlashes false path else path
  if norm ≠ .none then stripTrailingSlash out else out

/-- `path.find("//")` finds something. -/
def hasDoubleSlash : Text → Bool
  | [] => false
  | c :: rest => c = '/' && rest.head? = some '/' || hasDoubleSlash rest

/-- `normalize_lookup`. -/
def normalizeLookup (norm : PathNormalization) (path : Text) : Text :=
  if norm = .none then path
  else if norm = .collapseMultiSlash ∧ hasDoubleSlash path then
    stripTrailingSlash (collapseSlashes false path)
  else stripTrailingSlash path

/-- `parse_segments` at one segment. -/
def parseSegment (normalized : Text) (read : List PathSegment × List Text) (segment : Text) :
    Except RegistrationError (List PathSegment × List Text) :=
  if 2 ≤ segment.length ∧ segment.head? = some '\x7b' ∧ segment.getLast? = some '\x7d' then
    let name := segment.tail.dropLast
    if name = [] then
      .error (.invalidArgument ("RouteRegistry: empty parameter name in route '".toList ++
        normalized ++ "'".toList))
    else if name.any (fun c => c = '\x7b' || c = '\x7d') then
      .error (.invalidArgument ("RouteRegistry: nested braces in route '".toList ++ normalized ++
        "'".toList))
    else if name ∈ read.2 then
      .error (.invalidArgument ("RouteRegistry: duplicate parameter name '".toList ++ name ++
        "' in route '".toList ++ normalized ++ "'".toList))
    else .ok (read.1 ++ [⟨name, true⟩], read.2 ++ [name])
  else if segment.any (fun c => c = '%' || c = '\x7b' || c = '\x7d') then
    .error (.invalidArgument
      ("RouteRegistry: '%', '\x7b' and '\x7d' are not allowed in literal route ".toList ++
        "segments ('".toList ++ normalized ++ "')".toList))
  else .ok (read.1 ++ [⟨segment, false⟩], read.2)

/-- `parse_segments`. -/
def parseSegments (normalized : Text) : Except RegistrationError (List PathSegment) :=
  ((segmentsOf normalized).foldlM (parseSegment normalized) ([], [])).map Prod.fst

/-- `same_shape`. -/
def sameShape : List PathSegment → List PathSegment → Bool
  | [], [] => true
  | x :: xs, y :: ys => x.isParam = y.isParam && (x.isParam || x.text = y.text) && sameShape xs ys
  | _, _ => false

/-- `names_match`. -/
def namesMatch : List PathSegment → List PathSegment → Bool
  | [], [] => true
  | x :: xs, y :: ys => x.text = y.text && namesMatch xs ys
  | _, _ => false

/-- The loop of `add_route` over the templates: the new list, or a conflict. -/
def addTemplate (method : HttpMethod) (segments : List PathSegment) (handler : Handler) :
    List (ParamTemplate Handler) → Except Text (List (ParamTemplate Handler))
  | [] => .ok [⟨segments, update (fun _ => none) method (some handler)⟩]
  | template :: rest =>
    if !sameShape template.segments segments then
      (addTemplate method segments handler rest).map (template :: ·)
    else if !namesMatch template.segments segments then
      .error "parametric route already registered with different parameter names".toList
    else if (template.byMethod method).isSome then .error "duplicate route".toList
    else .ok (template.setMethod method handler :: rest)

/-- The arguments of a call of `add_route`. -/
structure Registration (Handler : Type) where
  method : HttpMethod
  path : Text
  handler : Option Handler

namespace RouteRegistry

/-- `add_route` for a path without parameters. -/
def addExact (registry : RouteRegistry Handler) (method : HttpMethod) (normalized : Text)
    (handler : Handler) : RouteRegistry Handler :=
  let slots := (registry.exact normalized).getD (fun _ => none)
  if (slots method).isSome then
    { registry with
      conflicts := registry.conflicts ++ [⟨method, normalized, "duplicate route".toList⟩] }
  else
    { registry with
      exact := update registry.exact normalized
        (some (update slots method (some handler))) }

/-- `add_route` for a path with parameters. -/
def addParametric (registry : RouteRegistry Handler) (method : HttpMethod) (normalized : Text)
    (segments : List PathSegment) (handler : Handler) : RouteRegistry Handler :=
  match addTemplate method segments handler registry.parametric with
  | .ok parametric => { registry with parametric := parametric }
  | .error detail =>
    { registry with conflicts := registry.conflicts ++ [⟨method, normalized, detail⟩] }

/-- `add_route`: what it throws, and the registry it leaves. -/
def addRoute (registry : RouteRegistry Handler) (registration : Registration Handler) :
    Except RegistrationError Unit × RouteRegistry Handler :=
  if registry.frozen then
    (.error (.logicError "RouteRegistry: registration after freeze()".toList), registry)
  else if registration.method = .unknown then
    (.error (.invalidArgument "RouteRegistry: cannot register HttpMethod::unknown".toList),
      registry)
  else
    match registration.handler with
    | none => (.error (.invalidArgument "RouteRegistry: null handler".toList), registry)
    | some handler =>
      if registration.path.head? ≠ some '/' then
        (.error (.invalidArgument ("RouteRegistry: route path must start with '/': '".toList ++
          registration.path ++ "'".toList)), registry)
      else
        let normalized := normalizeOwned registry.norm registration.path
        match parseSegments normalized with
        | .error error => (.error error, registry)
        | .ok segments =>
          if segments.any PathSegment.isParam then
            (.ok (), registry.addParametric registration.method normalized segments handler)
          else (.ok (), registry.addExact registration.method normalized handler)

/-- `freeze`: the conflicts and the registry. -/
def freeze (registry : RouteRegistry Handler) : List RouteConflictError × RouteRegistry Handler :=
  (registry.conflicts, { registry with frozen := true, conflicts := [] })

end RouteRegistry

/-- `match_template` at one segment: the next segment of the template and the parameters. -/
def matchSegment (segments : List PathSegment) (walked : Nat × List (Text × Text))
    (segment : Text) : Option (Nat × List (Text × Text)) :=
  match segments[walked.1]? with
  | none => none
  | some expected =>
    if !expected.isParam then
      if segment = expected.text then some (walked.1 + 1, walked.2) else none
    else if segment = [] then none
    else (urlDecodeArena segment false).map
      (fun decoded => (walked.1 + 1, walked.2 ++ [(expected.text, decoded)]))

/-- `match_template`: the parameters of a match. -/
def matchTemplate (template : ParamTemplate Handler) (path : Text) : Option (List (Text × Text)) :=
  match (segmentsOf path).foldlM (matchSegment template.segments) (0, []) with
  | none => none
  | some walked => if walked.1 = template.segments.length then some walked.2 else none

/-- `allowed_methods`. -/
def allowedMethods (slots : MethodSlots Handler) : List HttpMethod :=
  HttpMethod.registrable.filter (fun method => (slots method).isSome)

/-- The handler of a method, or the methods there are. -/
def dispatch (slots : MethodSlots Handler) (method : HttpMethod) (params : List (Text × Text)) :
    Except LookupError (ResolvedRoute Handler) :=
  match slots method with
  | some handler => .ok ⟨handler, params⟩
  | none => .error (.methodNotAllowed (allowedMethods slots))

/-- The loop over the templates. -/
def findTemplate (method : HttpMethod) (normalized : Text) :
    List (ParamTemplate Handler) → Except LookupError (ResolvedRoute Handler)
  | [] => .error (.notFound "route".toList normalized)
  | template :: rest =>
    match matchTemplate template normalized with
    | none => findTemplate method normalized rest
    | some params => dispatch template.byMethod method params

/-- `find_route`. -/
def RouteRegistry.findRoute (registry : RouteRegistry Handler) (method : HttpMethod)
    (path : Text) : Except LookupError (ResolvedRoute Handler) :=
  let normalized := normalizeLookup registry.norm path
  match registry.exact normalized with
  | some slots => dispatch slots method []
  | none => findTemplate method normalized registry.parametric

end Menagerie.Albatross
