import RouterSim.Dns.Wire

/-! The authoritative zone: the records a replacement accepts, and the answer to a question. -/
namespace RouterSim.Dns

def internetClass : BitVec 16 := 1#16
def typeA : BitVec 16 := 1#16
def typeNs : BitVec 16 := 2#16
def typeMd : BitVec 16 := 3#16
def typeMf : BitVec 16 := 4#16
def typeCname : BitVec 16 := 5#16
def typeSoa : BitVec 16 := 6#16
def typeMb : BitVec 16 := 7#16
def typeMg : BitVec 16 := 8#16
def typeMr : BitVec 16 := 9#16
def typeWks : BitVec 16 := 11#16
def typePtr : BitVec 16 := 12#16
def typeHinfo : BitVec 16 := 13#16
def typeMinfo : BitVec 16 := 14#16
def typeMx : BitVec 16 := 15#16
def typeTxt : BitVec 16 := 16#16
def typeAaaa : BitVec 16 := 28#16
def typeSrv : BitVec 16 := 33#16
def typeDname : BitVec 16 := 39#16
def typeDs : BitVec 16 := 43#16
def typeRrsig : BitVec 16 := 46#16
def typeNsec : BitVec 16 := 47#16
def typeNsec3 : BitVec 16 := 50#16
def typeNsec3param : BitVec 16 := 51#16

/-- The query type for every record of a name. -/
def typeAny : BitVec 16 := 255#16

inductive Rcode
  | noError | formatError | serverFailure | nameError | notImplemented | refused | yxDomain
  deriving DecidableEq

structure Question where
  name : Name
  type : BitVec 16
  recordClass : BitVec 16

structure RecordData where
  owner : Name
  type : BitVec 16
  recordClass : BitVec 16
  ttl : BitVec 32
  rdata : List (BitVec 8)

structure ZoneRecord where
  owner : Name
  type : BitVec 16
  recordClass : BitVec 16 := internetClass
  ttl : BitVec 32
  rdata : List (BitVec 8)

structure AuthoritativeAnswer where
  rcode : Rcode := .noError
  answers : List RecordData := []
  authorities : List RecordData := []
  additionals : List RecordData := []
  authoritative : Bool := true
  referral : Bool := false

section Rdata

def canonicalNameRdata (rdata : List (BitVec 8)) : Bool :=
  (parseName rdata 0).any (·.2 == rdata.length)

/-- Two names and then exactly so many octets. -/
def twoNamesThen (trailing : Nat) (rdata : List (BitVec 8)) : Bool :=
  (parseName rdata 0).any fun first =>
    (parseName rdata first.2).any fun second => first.2 + second.2 + trailing == rdata.length

/-- How many length-prefixed strings the octets hold, if they hold nothing else. Each takes
at least one octet. -/
def characterStringCount : Nat → List (BitVec 8) → Option Nat
  | _, [] => some 0
  | 0, _ :: _ => none
  | steps + 1, length :: rest =>
    if rest.length < length.toNat then none
    else (characterStringCount steps (rest.drop length.toNat)).map (· + 1)

theorem characterStringCount_steps {steps more : Nat} {rdata : List (BitVec 8)}
    (h : rdata.length ≤ steps) :
    characterStringCount steps rdata = characterStringCount (steps + more) rdata := by
  induction steps generalizing rdata with
  | zero =>
    obtain rfl := List.eq_nil_of_length_eq_zero (Nat.le_zero.mp h)
    cases more <;> rfl
  | succ steps ih =>
    cases rdata with
    | nil =>
      rw [Nat.succ_add]
      rfl
    | cons length rest =>
      rw [Nat.succ_add]
      simp only [characterStringCount]
      rw [ih]
      simp only [List.length_drop, List.length_cons] at h ⊢
      omega

def characterStrings (rdata : List (BitVec 8)) (required : Nat) : Bool :=
  (characterStringCount rdata.length rdata).any fun count =>
    if required = 0 then count != 0 else count == required

def holdsOneName (type : BitVec 16) : Bool :=
  [typeNs, typeMd, typeMf, typeCname, typeMb, typeMg, typeMr, typePtr, typeDname].contains type

def validRdata (record : ZoneRecord) : Bool :=
  let rdata := record.rdata
  if record.type = typeA then rdata.length == 4
  else if record.type = typeAaaa then rdata.length == 16
  else if holdsOneName record.type then canonicalNameRdata rdata
  else if record.type = typeMinfo then twoNamesThen 0 rdata
  else if record.type = typeHinfo then characterStrings rdata 2
  else if record.type = typeTxt then characterStrings rdata 0
  else if record.type = typeWks then decide (5 ≤ rdata.length)
  else if record.type = typeSoa then twoNamesThen 20 rdata
  else if record.type = typeMx then decide (3 ≤ rdata.length) && canonicalNameRdata (rdata.drop 2)
  else if record.type = typeSrv then decide (7 ≤ rdata.length) && canonicalNameRdata (rdata.drop 6)
  else decide (rdata.length ≤ 65535)

def rdataName (record : ZoneRecord) : Option Name :=
  match parseName record.rdata 0 with
  | some (name, consumed) => if consumed = record.rdata.length then some name else none
  | none => none

/-- The last four octets of an SOA. -/
def soaMinimum (soa : ZoneRecord) : BitVec 32 :=
  if soa.rdata.length < 4 then 0#32 else Octets.read32 soa.rdata (soa.rdata.length - 4)

end Rdata

structure Zone where
  origin : Name
  records : List ZoneRecord := []

namespace Zone

section Replace

def atApex (origin : Name) (record : ZoneRecord) (type : BitVec 16) : Bool :=
  equalCaseInsensitive record.owner origin && record.type == type

/-- A record beside another of the same owner: an alias owns nothing else but what proves and
signs it, and no record is there twice. -/
def conflicts (record other : ZoneRecord) : Bool :=
  let cnameConflict := (record.type == typeCname || other.type == typeCname) &&
    record.type != other.type && record.type != typeRrsig && other.type != typeRrsig &&
    record.type != typeNsec && other.type != typeNsec
  equalCaseInsensitive record.owner other.owner &&
    (cnameConflict || record.type == other.type && record.rdata == other.rdata)

def admits (origin : Name) (previous : List ZoneRecord) (record : ZoneRecord) : Bool :=
  validName record.owner && isSubdomain record.owner origin &&
    record.recordClass == internetClass && validRdata record && !previous.any (conflicts record)

def admitsAll (origin : Name) : List ZoneRecord → List ZoneRecord → Bool
  | _, [] => true
  | previous, record :: rest =>
    admits origin previous record && admitsAll origin (previous ++ [record]) rest

def accepts (origin : Name) (records : List ZoneRecord) : Bool :=
  validName origin && admitsAll origin [] records &&
    records.countP (atApex origin · typeSoa) == 1 && records.countP (atApex origin · typeNs) != 0

def replace (zone : Zone) (records : List ZoneRecord) : Bool × Zone :=
  if accepts zone.origin records then (true, { zone with records }) else (false, zone)

end Replace

section Answer

variable (zone : Zone)

def view (record : ZoneRecord) : RecordData where
  owner := record.owner
  type := record.type
  recordClass := record.recordClass
  ttl := record.ttl
  rdata := record.rdata

/-- The SOA of a negative answer, under the smaller of its own and the negative TTL. -/
def negativeSoa : List RecordData :=
  match zone.records.find? (atApex zone.origin · typeSoa) with
  | none => []
  | some soa =>
    [{ view soa with ttl := if soaMinimum soa < soa.ttl then soaMinimum soa else soa.ttl }]

/-- An NS record below the apex, at or above the name. -/
def delegates (name : Name) (record : ZoneRecord) : Bool :=
  record.type == typeNs && !equalCaseInsensitive record.owner zone.origin &&
    isSubdomain name record.owner

/-- The closest zone cut at or above the name. -/
def cut (name : Name) : Option ZoneRecord :=
  zone.records.foldl
    (fun best record =>
      if !zone.delegates name record then best
      else if best.all fun cut => decide (cut.owner.octets < record.owner.octets) then some record
      else best) none

/-- The addresses below a cut that go with one of its servers. -/
def glue (cut server : ZoneRecord) : List RecordData :=
  match rdataName server with
  | none => []
  | some target =>
    if !isSubdomain target cut.owner then []
    else
      (zone.records.filter fun address =>
        (address.type == typeA || address.type == typeAaaa) &&
          equalCaseInsensitive address.owner target).map view

def referralTo (cut : ZoneRecord) : AuthoritativeAnswer :=
  let servers := zone.records.filter fun record =>
    record.type == typeNs && equalCaseInsensitive record.owner cut.owner
  { authorities := servers.map view, additionals := servers.flatMap (zone.glue cut),
    authoritative := false, referral := true }

def owned (name : Name) : List ZoneRecord :=
  zone.records.filter fun record => equalCaseInsensitive record.owner name

/-- The records of the name that answer the type, or else its alias. -/
def direct (question : Question) : List ZoneRecord :=
  let owned := zone.owned question.name
  let matching := owned.filter fun record =>
    question.type == typeAny || record.type == question.type
  if matching.isEmpty && question.type != typeCname then
    owned.filter fun record => record.type == typeCname
  else matching

/-- A record is owned at or below the name. -/
def present (name : Name) : Bool :=
  zone.records.any fun record =>
    equalCaseInsensitive record.owner name || isSubdomain record.owner name

/-- The name owns nothing, but something below it does. -/
def emptyNonTerminal (name : Name) : Bool :=
  zone.records.any fun record =>
    isSubdomain record.owner name && !equalCaseInsensitive record.owner name

/-- The closest name at or above that exists. -/
def closest (name : Name) : Option Name := name.suffixes.find? zone.present

/-- The DNAME that redirects the name, if its owner is the closest name. -/
def redirection (name closest : Name) : Option ZoneRecord :=
  zone.records.find? fun record =>
    record.type == typeDname && equalCaseInsensitive record.owner closest &&
      !equalCaseInsensitive name record.owner

/-- A DNAME and the alias it stands for. -/
def redirect (name : Name) (dname : ZoneRecord) : AuthoritativeAnswer :=
  let prefixOctets := name.octets - dname.owner.octets
  if maximumNameOctets < prefixOctets + dname.rdata.length then
    { rcode := .yxDomain, answers := [view dname] }
  else
    { answers :=
        [view dname,
          { owner := name, type := typeCname, recordClass := dname.recordClass, ttl := dname.ttl,
            rdata := name.wire.take prefixOctets ++ dname.rdata }] }

end Answer

end Zone

/-- The asterisk directly under a name, unless the name is too long for it. -/
def wildcardName (encloser : Name) : Option Name := Name.ofLabels ([42#8] :: encloser.labels)

namespace Zone

variable (zone : Zone)

/-- What a wildcard gives for the question, if it owns anything. -/
def synthesize (question : Question) (closest : Name) : Option AuthoritativeAnswer :=
  match wildcardName closest with
  | none => none
  | some wildcard =>
    let source := zone.owned wildcard
    if source.isEmpty then none
    else
      let matching := source.filter fun record =>
        question.type == typeAny || record.type == question.type ||
          record.type == typeCname && question.type != typeCname
      some
        { answers := matching.map fun record => { view record with owner := question.name }
          authorities := if matching.isEmpty then zone.negativeSoa else [] }

/-- The answer for a name that does not exist. -/
def nonexistent (question : Question) : AuthoritativeAnswer :=
  let denied : AuthoritativeAnswer := { rcode := .nameError, authorities := zone.negativeSoa }
  match zone.closest question.name with
  | none => denied
  | some closest =>
    match zone.redirection question.name closest with
    | some dname => redirect question.name dname
    | none => (zone.synthesize question closest).getD denied

/-- The answer for a name at or above which there is no cut, or of the parent's side of it. -/
def resolve (question : Question) : AuthoritativeAnswer :=
  let direct := zone.direct question
  if !direct.isEmpty then { answers := direct.map view }
  else if !(zone.owned question.name).isEmpty || zone.emptyNonTerminal question.name then
    { authorities := zone.negativeSoa }
  else zone.nonexistent question

def answer (question : Question) : AuthoritativeAnswer :=
  if question.recordClass ≠ internetClass ∨ !isSubdomain question.name zone.origin then
    { rcode := .refused, authoritative := false }
  else
    match zone.cut question.name with
    | none => zone.resolve question
    | some cut =>
      if question.type = typeDs ∧ equalCaseInsensitive question.name cut.owner then
        zone.resolve question
      else zone.referralTo cut

end Zone

end RouterSim.Dns
