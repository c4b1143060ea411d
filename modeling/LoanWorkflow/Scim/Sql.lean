import LoanWorkflow.Framework.SqlTemplate
import LoanWorkflow.Scim.Filter

/-! # SQL for SCIM filters

    `ToSQL` walks a filter and collects its arguments in a shared list while
    it writes the clause; a placeholder has the number of the argument that
    was added with it. The listing queries put the clause behind the tenant's
    own condition, with all placeholders shifted by one, and add the page.
-/

namespace LoanWorkflow

open SqlTemplate

/-! ## Clauses -/

/-- The library functions behind the clauses. -/
structure ScimLibrary extends Unicode where
  /-- `fmt.Sprint` of a `float64`. -/
  formatFloat : Double → List Char
  /-- Does `time.Parse(time.RFC3339, _)` accept a text? -/
  parsesRFC3339 : List Char → Bool

inductive SCIMResourceType where
  | user | group
deriving DecidableEq, Repr

/-- The `kind` of a `filterAttrDef`. -/
inductive AttrKind where
  | string | active | time | members
deriving DecidableEq, Repr

structure FilterAttrDef where
  expr : String := ""
  kind : AttrKind
  lower : Bool := false

def filterAttributes : SCIMResourceType → List (String × FilterAttrDef)
  | .user =>
    [("username", { expr := "LOWER(u.username)", kind := .string, lower := true }),
      ("displayname", { expr := "u.display_name", kind := .string }),
      ("emails.value", { expr := "LOWER(u.email)", kind := .string, lower := true }),
      ("active", { kind := .active }),
      ("externalid", { expr := "u.external_id", kind := .string }),
      ("meta.created", { expr := "u.created_at", kind := .time }),
      ("meta.lastmodified", { expr := "u.updated_at", kind := .time })]
  | .group =>
    [("displayname", { expr := "g.display_name", kind := .string }),
      ("externalid", { expr := "g.external_id", kind := .string }),
      ("members.value", { kind := .members }),
      ("meta.created", { expr := "g.created_at", kind := .time }),
      ("meta.lastmodified", { expr := "g.updated_at", kind := .time })]

def scimFilterAttribute (u : Unicode) (resource : SCIMResourceType) (attr : List Char) :
    Option FilterAttrDef :=
  (filterAttributes resource).lookup (String.ofList (u.lower (trimRunes attr)))

def anyToString (lib : ScimLibrary) : Option FilterValue → List Char
  | none => []
  | some (.str text) => trimRunes text
  | some (.bool b) => (toString b).toList
  | some (.num x) => trimRunes (lib.formatFloat x)

/-- A builder adds its arguments to a list and returns its clause. -/
abbrev ClauseBuilder := List (List Char) → Except Err (List Char × List (List Char))

def nextArg (args : List (List Char)) (v : List Char) : List Char × List (List Char) :=
  (placeholder (args.length + 1), args ++ [v])

def comparisonOperator : CompareOp → Option String
  | .eq => some "="
  | .ne => some "<>"
  | .gt => some ">"
  | .ge => some ">="
  | .lt => some "<"
  | .le => some "<="
  | _ => none

def buildSimplePredicate (expr : String) (op : CompareOp) (value : List Char) (lower : Bool) :
    ClauseBuilder := fun args =>
  match op with
  | .eq | .ne | .gt | .ge | .lt | .le =>
    match comparisonOperator op with
    | none => .error errInvalidSCIMFilter
    | some sqlOp =>
      let (ph, args) := nextArg args value
      if lower then
        .ok (("(" ++ expr ++ " " ++ sqlOp ++ " LOWER(").toList ++ ph ++ "))".toList, args)
      else .ok (("(" ++ expr ++ " " ++ sqlOp ++ " ").toList ++ ph ++ ")".toList, args)
  | .co =>
    let (ph, args) := nextArg args ('%' :: (value ++ ['%']))
    .ok (("(" ++ expr ++ " ILIKE ").toList ++ ph ++ ")".toList, args)
  | .sw =>
    let (ph, args) := nextArg args (value ++ ['%'])
    .ok (("(" ++ expr ++ " ILIKE ").toList ++ ph ++ ")".toList, args)
  | .ew =>
    let (ph, args) := nextArg args ('%' :: value)
    .ok (("(" ++ expr ++ " ILIKE ").toList ++ ph ++ ")".toList, args)
  | .pr => .error errInvalidSCIMFilter

def buildActiveClause (op : CompareOp) (value : Option FilterValue) : ClauseBuilder := fun args =>
  match op with
  | .pr => .ok ("(u.status IS NOT NULL)".toList, args)
  | .eq | .ne =>
    match value with
    | some (.bool b) =>
      if decide (op = .eq) == b then .ok ("(u.status = 'ACTIVE')".toList, args)
      else .ok ("(u.status <> 'ACTIVE')".toList, args)
    | _ => .error errInvalidSCIMFilter
  | _ => .error errInvalidSCIMFilter

def membersBase : String :=
  "SELECT 1 FROM team_members tmf WHERE tmf.tenant_id = g.tenant_id AND tmf.team_id = g.team_id"

def buildMembersClause (lib : ScimLibrary) (op : CompareOp) (value : Option FilterValue) :
    ClauseBuilder := fun args =>
  match op with
  | .pr => .ok (("EXISTS (" ++ membersBase ++ ")").toList, args)
  | _ =>
    let raw := anyToString lib value
    if raw = [] then .error errInvalidSCIMFilter
    else do
      let predicateOp := if op = .ne then .eq else op
      let (predicate, args) ← buildSimplePredicate "tmf.user_id::text" predicateOp raw false args
      let existsExpr := ("EXISTS (" ++ membersBase ++ " AND ").toList ++ predicate ++ ")".toList
      if op = .ne then .ok ("NOT (".toList ++ existsExpr ++ ")".toList, args)
      else .ok (existsExpr, args)

def buildTimeClause (lib : ScimLibrary) (expr : String) (op : CompareOp)
    (value : Option FilterValue) : ClauseBuilder := fun args =>
  if op = .pr then .ok (("(" ++ expr ++ " IS NOT NULL)").toList, args)
  else
    let raw := anyToString lib value
    if raw = [] then .error errInvalidSCIMFilter
    else if lib.parsesRFC3339 raw = false then .error errInvalidSCIMFilter
    else
      let (ph, args) := nextArg args raw
      match comparisonOperator op with
      | none => .error errInvalidSCIMFilter
      | some sqlOp =>
        .ok (("(" ++ expr ++ " " ++ sqlOp ++ " ").toList ++ ph ++ "::timestamptz)".toList, args)

def lowerValue (u : Unicode) (lower : Bool) : Option FilterValue → Option FilterValue
  | some (.str text) => some (.str (if lower then u.lower text else text))
  | value => value

def buildStringOrNumericClause (lib : ScimLibrary) (expr : String) (op : CompareOp)
    (value : Option FilterValue) (lower : Bool) : ClauseBuilder := fun args =>
  if op = .pr then .ok (("(" ++ expr ++ " IS NOT NULL)").toList, args)
  else
    let strValue := anyToString lib (lowerValue lib.toUnicode lower value)
    if strValue = [] ∧ op ≠ .eq ∧ op ≠ .ne then .error errInvalidSCIMFilter
    else buildSimplePredicate expr op strValue lower args

def comparisonSQL (lib : ScimLibrary) (resource : SCIMResourceType) (attr : List Char)
    (op : CompareOp) (value : Option FilterValue) : ClauseBuilder := fun args =>
  let attr := lib.lower (trimRunes attr)
  match scimFilterAttribute lib.toUnicode resource attr with
  | none => .error (errInvalidSCIMFilter ++ ": unsupported attribute " ++ String.ofList attr)
  | some d =>
    match d.kind with
    | .members => buildMembersClause lib op value args
    | .active => buildActiveClause op value args
    | .time => buildTimeClause lib d.expr op value args
    | .string => buildStringOrNumericClause lib d.expr op value d.lower args

def LogicalOp.sql : LogicalOp → String
  | .and => "AND"
  | .or => "OR"

/-- `toSQL` of a node. -/
def SCIMFilterNode.clause (lib : ScimLibrary) (resource : SCIMResourceType) :
    SCIMFilterNode → ClauseBuilder
  | .comparison attr op value, args => comparisonSQL lib resource attr op value args
  | .logical op left right, args => do
    let (l, args) ← left.clause lib resource args
    let (r, args) ← right.clause lib resource args
    .ok ("(".toList ++ l ++ (" " ++ op.sql ++ " ").toList ++ r ++ ")".toList, args)
  | .not operand, args => do
    let (inner, args) ← operand.clause lib resource args
    .ok ("(NOT (".toList ++ inner ++ "))".toList, args)

/-- The clause and its arguments. -/
def SCIMFilterNode.toSQL (lib : ScimLibrary) (resource : SCIMResourceType)
    (node : SCIMFilterNode) : Except Err (List Char × List (List Char)) :=
  node.clause lib resource []

/-! ## Listing -/

/-- The text for one match of the placeholder pattern. `strconv.Atoi` fails from `2 ^ 63` on,
    and sums wrap around there. -/
def shiftMatch (offset : Nat) : Found → List Char
  | .char c => [c]
  | .digits ds =>
    let n := Nat.ofDigitChars 10 ds 0
    if 2 ^ 63 ≤ n then '$' :: ds
    else if n + offset < 2 ^ 63 then placeholder (n + offset)
    else '$' :: '-' :: Nat.toDigits 10 (2 ^ 64 - (n + offset))

def shiftPlaceholders (clause : List Char) (offset : Nat) : List Char :=
  if offset = 0 ∨ trimRunes clause = [] then clause
  else (find clause).flatMap (shiftMatch offset)

def sanitizePagination (startIndex count : Int) : Int × Int :=
  let startIndex := if startIndex ≤ 0 then 1 else startIndex
  let count := if count ≤ 0 then 100 else count
  (startIndex, if 200 < count then 200 else count)

inductive SqlArg where
  | text (t : List Char)
  | int (n : Int)
deriving DecidableEq

structure ListRequest where
  tenantId : List Char
  filterExpr : List Char
  sortBy : List Char
  sortOrder : List Char
  startIndex : Int
  count : Int

/-- The texts in which the listings of users and groups differ. -/
structure ListingText where
  name : String
  resource : SCIMResourceType
  /-- The condition on the tenant, up to the placeholder. -/
  tenantColumn : String
  /-- The query up to the condition. -/
  head : String
  /-- The query between the condition and the order. -/
  middle : String
  sortColumns : List (String × String × String)
  defaultSort : String

/-- `userSortClause` and `groupSortClause`: the direction stands between the two parts of an
    entry. -/
def sortClause (u : Unicode) (texts : ListingText) (sortBy sortOrder : List Char) : List Char :=
  -- the long s folds to the s of the keyword
  let sortOrder := sortOrder.map (fun c => if c = '\u017f' then 's' else c)
  let direction := if equalFold sortOrder "descending" then "DESC" else "ASC"
  match texts.sortColumns.lookup (String.ofList (u.lower (trimRunes sortBy))) with
  | some (column, rest) => (column ++ direction ++ rest).toList
  | none => texts.defaultSort.toList

/-- The condition of a listing and the arguments so far. -/
def listCondition (lib : ScimLibrary) (texts : ListingText) (req : ListRequest) :
    Except Err (List Char × List SqlArg) :=
  let tenant := texts.tenantColumn.toList ++ placeholder 1 ++ "::uuid".toList
  if trimRunes req.filterExpr = [] then .ok (tenant, [.text req.tenantId])
  else
    match parseSCIMFilter lib.toUnicode req.filterExpr with
    | .error e => .error (texts.name ++ ": " ++ e)
    | .ok parsed =>
      match parsed.toSQL lib texts.resource with
      | .error e => .error (texts.name ++ ": " ++ e)
      | .ok (clause, filterArgs) =>
        if trimRunes clause = [] then .ok (tenant, [.text req.tenantId])
        else .ok (tenant ++ " AND ".toList ++ shiftPlaceholders clause 1,
          .text req.tenantId :: filterArgs.map .text)

/-- The query of a listing, with its arguments. -/
def listQuery (lib : ScimLibrary) (texts : ListingText) (req : ListRequest) :
    Except Err (List Char × List SqlArg) := do
  let (startIndex, count) := sanitizePagination req.startIndex req.count
  let (condition, args) ← listCondition lib texts req
  let args := args ++ [.int count, .int (startIndex - 1)]
  .ok (texts.head.toList ++ condition ++ texts.middle.toList ++
    sortClause lib.toUnicode texts req.sortBy req.sortOrder ++
    "\n\t\tLIMIT ".toList ++ placeholder (args.length - 1) ++
    " OFFSET ".toList ++ placeholder args.length ++ "\n\t".toList, args)

def userListing : ListingText where
  name := "listSCIMUsers"
  resource := .user
  tenantColumn := "u.tenant_id = "
  head := "
		WITH filtered AS (
			SELECT u.user_id
			FROM users u
			WHERE "
  middle := "
		)
		SELECT
			u.user_id::text AS user_id,
			u.tenant_id::text AS tenant_id,
			u.username,
			u.email,
			u.display_name,
			u.status,
			u.auth_provider,
			u.external_id,
			u.locale,
			u.timezone,
			u.created_at,
			u.updated_at,
			u.version,
			COALESCE(array_agg(DISTINCT r.role_code) FILTER (WHERE r.role_code IS NOT NULL), '\x7b\x7d') AS roles,
			MIN(tm.team_id::text) AS primary_team_id,
			COUNT(*) OVER() AS total_count
		FROM filtered f
		JOIN users u
		  ON u.user_id = f.user_id
		LEFT JOIN user_roles ur
		  ON ur.tenant_id = u.tenant_id
		 AND ur.user_id = u.user_id
		LEFT JOIN roles r
		  ON r.tenant_id = ur.tenant_id
		 AND r.role_id = ur.role_id
		LEFT JOIN team_members tm
		  ON tm.tenant_id = u.tenant_id
		 AND tm.user_id = u.user_id
		GROUP BY u.user_id, u.tenant_id, u.username, u.email, u.display_name, u.status,
		         u.auth_provider, u.external_id, u.locale, u.timezone, u.created_at, u.updated_at, u.version
		ORDER BY "
  sortColumns :=
    [("username", "LOWER(u.username) ", ", u.user_id ASC"),
      ("displayname", "u.display_name ", ", u.user_id ASC"),
      ("externalid", "u.external_id ", " NULLS LAST, u.user_id ASC"),
      ("meta.created", "u.created_at ", ", u.user_id ASC"),
      ("meta.lastmodified", "u.updated_at ", ", u.user_id ASC")]
  defaultSort := "u.display_name ASC, u.user_id ASC"

def groupListing : ListingText where
  name := "listSCIMGroups"
  resource := .group
  tenantColumn := "g.tenant_id = "
  head := "
		SELECT
			g.team_id::text AS team_id,
			g.tenant_id::text AS tenant_id,
			g.external_id,
			g.display_name,
			g.created_at,
			g.updated_at,
			g.version,
			COALESCE(array_agg(tm.user_id::text) FILTER (WHERE tm.user_id IS NOT NULL), '\x7b\x7d') AS members,
			COUNT(*) OVER() AS total_count
		FROM teams g
		LEFT JOIN team_members tm
		  ON tm.tenant_id = g.tenant_id
		 AND tm.team_id = g.team_id
		WHERE "
  middle := "
		GROUP BY g.team_id, g.tenant_id, g.external_id, g.display_name, g.created_at, g.updated_at, g.version
		ORDER BY "
  sortColumns :=
    [("displayname", "g.display_name ", ", g.team_id ASC"),
      ("externalid", "g.external_id ", " NULLS LAST, g.team_id ASC"),
      ("meta.created", "g.created_at ", ", g.team_id ASC"),
      ("meta.lastmodified", "g.updated_at ", ", g.team_id ASC")]
  defaultSort := "g.display_name ASC, g.team_id ASC"

/-- `listSCIMUsers`, up to the query it sends. -/
def listSCIMUsers (lib : ScimLibrary) (req : ListRequest) : Except Err (List Char × List SqlArg) :=
  listQuery lib userListing req

/-- `listSCIMGroups`, up to the query it sends. -/
def listSCIMGroups (lib : ScimLibrary) (req : ListRequest) : Except Err (List Char × List SqlArg) :=
  listQuery lib groupListing req

end LoanWorkflow
