import TunnelProvisioning.Addressing.Json
import TunnelProvisioning.Proofs.Addressing.Ipv4
import TunnelProvisioning.Proofs.Addressing.Netmask
import TunnelProvisioning.Proofs.Json.Entries
import TunnelProvisioning.Proofs.Json.Skipping
import TunnelProvisioning.Proofs.Json.Value

/-! # Addressing read by its fields

An object gives an addressing if it has each of the three fields once or not at all, as an address
or as null. The order of the fields does not matter, nor does anything else that the object has.
What is missing or null is completed, and a completed network is the one that the check of an
addressing expects, so that only the netmask can be found at fault.
-/

namespace TunnelProvisioning.Addressing

open Json

/-! ## Objects with fields -/

/-- Whether a tree is what a field may hold: an address, or null. -/
inductive IsField : Tree → Option Ipv4 → Prop where
  | null : IsField .null none
  | address {content : String} {address : Ipv4} (reads : Ipv4.ofText? content = some address) :
      IsField (.text (some content)) (some address)

/-- Whether what an object still has under a key takes a field from what was read of it so far to
what it is in the end. A field that was read does not come again. -/
inductive Awaits : List Tree → Option (Option Ipv4) → Option (Option Ipv4) → Prop where
  | done (field : Option (Option Ipv4)) : Awaits [] field field
  | once {tree : Tree} {found : Option Ipv4} (isField : IsField tree found) :
      Awaits [tree] none (some found)

/-- Whether members of an object take the fields that were read before them to those that are read
in the end. Every key is a text, be it the key of a field or another one. -/
structure Completes (members : List (Option String × Tree)) (earlier fields : Fields) : Prop where
  named : ∀ member ∈ members, member.1.isSome = true
  localAddress : Awaits ((Tree.object members).entries "local_address") earlier.localAddress
    fields.localAddress
  network : Awaits ((Tree.object members).entries "network") earlier.network fields.network
  netmask : Awaits ((Tree.object members).entries "netmask") earlier.netmask fields.netmask

/-- Whether a tree is an object that gives fields. -/
def Gives (tree : Tree) (fields : Fields) : Prop :=
  ∃ members, tree = .object members ∧ Completes members {} fields

/-! ## Reading -/

section

variable {depth : Nat} {tree : Tree} {found : Option Ipv4} {cs after next start rest : List Char}

theorem readField_eq (isField : IsField tree found) (blanks : Blanks cs start)
    (spells : Spells depth tree start rest) : readField cs = .ok (found, rest) := by
  rw [readField, blanks.skipBlanks_eq]
  cases isField with
  | null =>
    rw [spells_null_iff.mp spells]
    rfl
  | @address content address reads =>
    obtain ⟨chars?, body, same, rfl, text⟩ := spells_text_iff.mp spells
    obtain ⟨chars, rfl, rfl⟩ := Option.map_eq_some_iff.mp same.symm
    have quote : skipBlanks ('"' :: body) = '"' :: body := rfl
    simp only [quote, text.textBody_eq, reading, bind, Except.bind, reads]
    rfl

/-- A field that is awaited is read, and is not awaited any more. -/
theorem exists_readOnce {more : List Tree} {earlier final : Option (Option Ipv4)}
    (awaits : Awaits (tree :: more) earlier final) (before : Blanks after (':' :: next))
    (behind : Blanks next start) (spells : Spells depth tree start rest) (name : String) :
    ∃ found, readOnce name earlier after = .ok (found, rest) ∧ Awaits more (some found) final := by
  cases awaits with
  | @once _ found isField =>
    refine ⟨found, ?_, .done _⟩
    rw [readOnce, if_neg (by decide), before.colon_eq]
    exact readField_eq isField behind spells

/-- A member takes what is awaited of its name, and leaves what is awaited of other names. -/
theorem exists_readMember {name : String} {members : List (Option String × Tree)}
    {earlier fields : Fields} (completes : Completes ((some name, tree) :: members) earlier fields)
    (before : Blanks after (':' :: next)) (behind : Blanks next start)
    (spells : Spells depth tree start rest) (ends : rest.head?.all endsNumber = true) :
    ∃ later, readMember earlier name after = .ok (later, rest) ∧
      Completes members later fields := by
  obtain ⟨all, localAddress, network, netmask⟩ := completes
  have named := (List.forall_mem_cons.mp all).2
  by_cases first : name = "local_address"
  · subst first
    rw [Tree.entries_cons_of_eq] at localAddress
    rw [Tree.entries_cons_of_ne (by decide)] at network netmask
    obtain ⟨found, read, awaits⟩ :=
      exists_readOnce localAddress before behind spells "local_address"
    refine ⟨{ earlier with localAddress := some found }, ?_, ⟨named, awaits, network, netmask⟩⟩
    rw [readMember, if_pos rfl, read]
    rfl
  rw [Tree.entries_cons_of_ne first] at localAddress
  by_cases second : name = "network"
  · subst second
    rw [Tree.entries_cons_of_eq] at network
    rw [Tree.entries_cons_of_ne (by decide)] at netmask
    obtain ⟨found, read, awaits⟩ := exists_readOnce network before behind spells "network"
    refine ⟨{ earlier with network := some found }, ?_, ⟨named, localAddress, awaits, netmask⟩⟩
    rw [readMember, if_neg first, if_pos rfl, read]
    rfl
  rw [Tree.entries_cons_of_ne second] at network
  by_cases third : name = "netmask"
  · subst third
    rw [Tree.entries_cons_of_eq] at netmask
    obtain ⟨found, read, awaits⟩ := exists_readOnce netmask before behind spells "netmask"
    refine ⟨{ earlier with netmask := some found }, ?_, ⟨named, localAddress, network, awaits⟩⟩
    rw [readMember, if_neg first, if_neg second, if_pos rfl, read]
    rfl
  rw [Tree.entries_cons_of_ne third] at netmask
  refine ⟨earlier, ?_, ⟨named, localAddress, network, netmask⟩⟩
  rw [readMember, if_neg first, if_neg second, if_neg third, before.colon_eq]
  simp only [bind, Except.bind, skip_eq behind spells ends]
  rfl

/-- Once all members of an object were read, the fields are those that they give. -/
theorem Completes.eq_of_nil {earlier fields : Fields} (completes : Completes [] earlier fields) :
    earlier = fields := by
  obtain ⟨_, localAddress, network, netmask⟩ := completes
  obtain ⟨_, _, _⟩ := earlier
  obtain ⟨_, _, _⟩ := fields
  cases localAddress
  cases network
  cases netmask
  rfl

/-- A member is read, or skipped if it is no field. -/
theorem exists_member {member : Option String × Tree} {members : List (Option String × Tree)}
    {earlier fields : Fields} (spells : MemberOf (Spells depth) member cs rest)
    (ends : rest.head?.all endsNumber = true)
    (completes : Completes (member :: members) earlier fields) :
    ∃ name after later, key cs = .ok (name, after) ∧
      readMember earlier name after = .ok (later, rest) ∧ Completes members later fields := by
  cases spells with
  | @parts content tree cs after next start rest text before behind spells =>
    have named := completes.named _ List.mem_cons_self
    rw [Option.isSome_map] at named
    obtain ⟨chars, rfl⟩ := Option.isSome_iff_exists.mp named
    obtain ⟨later, read, left⟩ := exists_readMember completes before behind spells ends
    exact ⟨String.ofList chars, after, later, key_eq text, read, left⟩

theorem readMembers_succ {fuel : Nat} {first : Bool} {before : List Char} {name : String}
    {earlier later : Fields} (next : nextItem '\x7d' first before = .ok (true, cs))
    (key : key cs = .ok (name, after)) (read : readMember earlier name after = .ok (later, rest)) :
    readMembers (fuel + 1) first earlier before = readMembers fuel false later rest := by
  simp only [readMembers, next, key, read, bind, Except.bind, if_true]

theorem readMembers_end {fuel : Nat} {first : Bool} (fields : Fields)
    (blanks : Blanks cs ('\x7d' :: rest)) :
    readMembers (fuel + 1) first fields cs = .ok (fields, rest) := by
  simp only [readMembers, nextItem_end closes_brace blanks first, bind, Except.bind,
    Bool.false_eq_true, if_false]
  rfl

/-- Members are read one after the other. The induction is on them, over the fields read so far. -/
theorem readMembers_eq {members : List (Option String × Tree)}
    (elements : Elements '\x7d' (MemberOf (Spells depth)) members cs rest) {fuel : Nat}
    (enough : members.length < fuel) {first : Bool} {before : List Char}
    (next : nextItem '\x7d' first before = .ok (true, cs)) {earlier fields : Fields}
    (completes : Completes members earlier fields) :
    readMembers fuel first earlier before = .ok (fields, rest) := by
  induction elements generalizing fuel first before earlier with
  | last spells blanks =>
    obtain ⟨fuel, rfl⟩ := Nat.exists_eq_add_one.mpr (Nat.zero_lt_of_lt enough)
    obtain ⟨fuel, rfl⟩ := Nat.exists_eq_add_one.mpr (Nat.lt_of_succ_lt_succ enough)
    obtain ⟨name, after, later, key, read, left⟩ :=
      exists_member spells (blanks.head?_ends closes_brace.ends) completes
    rw [readMembers_succ next key read, readMembers_end later blanks, left.eq_of_nil]
  | more spells comma gap elements ih =>
    obtain ⟨fuel, rfl⟩ := Nat.exists_eq_add_one.mpr (Nat.zero_lt_of_lt enough)
    obtain ⟨name, after, later, key, read, left⟩ :=
      exists_member spells (comma.head?_ends rfl) completes
    obtain ⟨c, more, rfl, visible, other⟩ := elements.starts (reads_member (reads_value depth))
    have goes := nextItem_comma closes_brace comma gap visible other
    rw [readMembers_succ next key read]
    exact ih (Nat.lt_of_succ_lt_succ enough) goes left

/-- A text whose object gives fields is read as the addressing that they make. -/
theorem ofJson_of_gives {text : String} {fields : Fields} (isText : IsText depth tree text)
    (gives : Gives tree fields) : ofJson text = .ok fields.addressing := by
  obtain ⟨members, rfl, completes⟩ := gives
  obtain ⟨start, rest, before, spells, behind⟩ := isText
  cases depth with
  | zero => exact spells.elim
  | succ depth =>
    obtain ⟨inner, rfl, sequence⟩ := spells
    have brace : skipBlanks ('\x7b' :: inner) = '\x7b' :: inner := rfl
    have read : readMembers (inner.length + 1) true {} inner = .ok (fields, rest) := by
      cases sequence with
      | empty blanks => rw [readMembers_end _ blanks, completes.eq_of_nil]
      | filled blanks elements =>
        have each := reads_member (reads_value depth)
        have shorter := (elements.length_le each).trans blanks.length_le
        obtain ⟨c, more, rfl, visible, other⟩ := elements.starts each
        exact readMembers_eq elements (Nat.lt_succ_of_le shorter)
          (nextItem_first blanks visible other) completes
    have blank : skipBlanks rest = [] := behind.skipBlanks_eq
    rw [ofJson, Addressing.read, before.skipBlanks_eq]
    simp only [brace, read, bind, Except.bind, pure, Except.pure, finish, blank, if_true]

end

/-! ## Writing -/

/-- The member that an object has for a field, if the field is there. -/
def fieldMember (name : String) (field : Option (Option Ipv4)) : List (String × Value) :=
  match field with
  | none => []
  | some none => [(name, .null)]
  | some (some address) => [(name, .text address.text)]

def Fields.toJson (fields : Fields) : Value :=
  .object (fieldMember "local_address" fields.localAddress ++
    (fieldMember "network" fields.network ++ fieldMember "netmask" fields.netmask))

def withoutKey (key : String) : Value → Value
  | .object members => .object (members.filter (·.1 ≠ key))
  | value => value

theorem toJson_eq (addressing : Addressing) :
    addressing.toJson = Fields.toJson
      ⟨some addressing.localAddress, some addressing.network, some addressing.netmask⟩ := rfl

theorem withoutKey_network (addressing : Addressing) :
    withoutKey "network" addressing.toJson =
      Fields.toJson ⟨some addressing.localAddress, none, some addressing.netmask⟩ := rfl

theorem Fields.readable (fields : Fields) : fields.toJson.Readable deepest := by
  have member (name : String) (field : Option (Option Ipv4)) :
      ∀ entry ∈ fieldMember name field, entry.2.Readable 126 := by
    rcases field with _ | _ | address
    · exact fun entry among => absurd among List.not_mem_nil
    · exact List.forall_mem_singleton.mpr .null
    · exact List.forall_mem_singleton.mpr (.text _)
  refine .object fun entry among => ?_
  rcases List.mem_append.mp among with first | among
  · exact member _ _ entry first
  rcases List.mem_append.mp among with second | third
  · exact member _ _ entry second
  · exact member _ _ entry third

/-- What is written for a field is awaited and takes it to what it was. -/
theorem awaits_of_mapM {entries : List Tree} {name : String} {field : Option (Option Ipv4)}
    (valued : entries.mapM Tree.value? = some ((fieldMember name field).map (·.2))) :
    Awaits entries none field := by
  rcases field with _ | _ | address
  · cases entries with
    | nil => exact .done none
    | cons entry entries =>
      rw [List.mapM_cons] at valued
      obtain ⟨_, _, valued⟩ := Option.bind_eq_some_iff.mp valued
      obtain ⟨_, _, valued⟩ := Option.bind_eq_some_iff.mp valued
      cases valued
  · obtain ⟨entry, rfl, own⟩ := Tree.mapM_eq_singleton_iff.mp valued
    obtain rfl := Tree.value?_eq_null_iff.mp own
    exact .once .null
  · obtain ⟨entry, rfl, own⟩ := Tree.mapM_eq_singleton_iff.mp valued
    obtain rfl := Tree.value?_eq_text_iff.mp own
    exact .once (.address (Ipv4.ofText?_text address))

theorem filter_fieldMember_self (name : String) (field : Option (Option Ipv4)) :
    (fieldMember name field).filter (·.1 = name) = fieldMember name field := by
  rcases field with _ | _ | address <;> simp [fieldMember]

theorem filter_fieldMember_of_ne {name key : String} (other : name ≠ key)
    (field : Option (Option Ipv4)) : (fieldMember name field).filter (·.1 = key) = [] := by
  rcases field with _ | _ | address <;> simp [fieldMember, other]

/-- Written fields are given. -/
theorem Fields.exists_gives (fields : Fields) :
    ∃ tree, IsText deepest tree fields.toJson.render ∧ Gives tree fields := by
  obtain ⟨tree, valued, isText⟩ := fields.readable.exists_isText
  obtain ⟨members, rfl, named⟩ := Tree.value?_eq_object_iff.mp valued
  have awaits {key : String} {field : Option (Option Ipv4)}
      (own : fields.toJson.lookup key = (fieldMember key field).map (·.2)) :
      Awaits ((Tree.object members).entries key) none field :=
    awaits_of_mapM ((Tree.mapM_entries valued).trans (congrArg some own))
  refine ⟨_, isText, members, rfl, Tree.isSome_of_memberValues? named, awaits ?_, awaits ?_,
    awaits ?_⟩
  all_goals
    simp [Value.lookup, toJson, List.filter_append, filter_fieldMember_self,
      filter_fieldMember_of_ne]

/-- Written fields are read as the addressing that they make. -/
theorem Fields.ofJson_render (fields : Fields) :
    ofJson fields.toJson.render = .ok fields.addressing := by
  obtain ⟨tree, isText, gives⟩ := fields.exists_gives
  exact ofJson_of_gives isText gives

/-! ## Completing -/

section

variable {addressing : Addressing}

/-- Under the expected network only the netmask can be at fault. -/
theorem field_of_validate_eq_error {fault : InvalidInput}
    (expected : addressing.network = addressing.localAddress.land addressing.netmask)
    (refused : addressing.validate = .error fault) : fault.field = "netmask" := by
  by_cases mask : ∃ length, addressing.netmask.IsMask length
  · rw [validate_of_network mask expected] at refused
    cases refused
  · rw [validate_of_no_mask mask] at refused
    obtain rfl := Except.error.inj refused
    rfl

end

/-- What is written is read back, and it may leave out the network of an addressing that is
accepted. Every choice of fields, each of which is an address, null or absent, is given by some
text, and whatever text gives it is read: addresses are kept, a local address or a netmask that is
null or absent is the usual one, and such a network is what the netmask that was read selects of the
local address that was read. Then only the netmask can be at fault. -/
theorem ofJson_completes (addressing : Addressing) (fields : Fields) :
    ofJson addressing.toJson.render = .ok addressing ∧
    (∃ tree, IsText deepest tree fields.toJson.render ∧ Gives tree fields) ∧
    (∀ depth tree text, IsText depth tree text → Gives tree fields →
      ∃ decoded, ofJson text = .ok decoded ∧
        decoded.localAddress = fields.localAddress.join.getD ⟨10, 0, 0, 1⟩ ∧
        decoded.netmask = fields.netmask.join.getD ⟨255, 255, 255, 0⟩ ∧
        (∀ network, fields.network.join = some network → decoded.network = network) ∧
        (fields.network.join = none →
          decoded.network.toNat = decoded.localAddress.toNat &&& decoded.netmask.toNat ∧
          ∀ fault, decoded.validate = .error fault → fault.field = "netmask")) ∧
    (addressing.validate = .ok () →
      ofJson (withoutKey "network" addressing.toJson).render = .ok addressing) := by
  refine ⟨?_, fields.exists_gives, fun depth tree text isText gives => ?_, fun accepted => ?_⟩
  · rw [toJson_eq, Fields.ofJson_render]
    rfl
  · refine ⟨fields.addressing, ofJson_of_gives isText gives, rfl, rfl, ?_, ?_⟩
    · intro network present
      rw [Fields.addressing, ofFields, present, Option.getD_some]
    · intro missing
      have expected : fields.addressing.network =
          fields.addressing.localAddress.land fields.addressing.netmask := by
        rw [Fields.addressing, ofFields, missing, Option.getD_none]
      refine ⟨?_, fun fault => field_of_validate_eq_error expected⟩
      rw [expected, Ipv4.toNat_land]
  · rw [withoutKey_network, Fields.ofJson_render]
    have expected := network_of_validate_eq_ok accepted
    rw [Fields.addressing, ofFields]
    dsimp only [Option.join_some, Option.getD_some, Option.join_none, Option.getD_none]
    rw [← expected]

/-- A null network under a netmask that is none, and the usual addressing without its network. -/
theorem ofJson_completes_null :
    let text := "\x7b\"network\":null,\"netmask\":\"0.0.0.255\"\x7d"
    let decoded : Addressing := ⟨⟨10, 0, 0, 1⟩, ⟨0, 0, 0, 1⟩, ⟨0, 0, 0, 255⟩⟩
    (∃ tree, IsText deepest tree text ∧
      Gives tree { network := some none, netmask := some (some ⟨0, 0, 0, 255⟩) }) ∧
    ofJson text = .ok decoded ∧
    (netmaskFault decoded.netmask).field = "netmask" ∧
    decoded.validate = .error (netmaskFault decoded.netmask) ∧
    ofJson (withoutKey "network" standard.toJson).render = .ok standard := by
  intro text decoded
  let fields : Fields := { network := some none, netmask := some (some ⟨0, 0, 0, 255⟩) }
  have null (rest : List Char) : Spells 126 .null (['n', 'u', 'l', 'l'] ++ rest) rest :=
    spells_null_iff.mpr rfl
  let members := [(some "network", Tree.null), (some "netmask", Tree.text (some "0.0.0.255"))]
  have isText : IsText deepest (.object members) text :=
    isText_pair "network" "netmask" null (spells_quote 126 "0.0.0.255") (by decide)
  have gives : Gives (.object members) fields := by
    refine ⟨members, rfl, ⟨by simp [members], .done none, .once .null, .once (.address ?_)⟩⟩
    decide
  obtain ⟨_, _, reads, shorter⟩ := ofJson_completes standard fields
  obtain ⟨found, read, localAddress, netmask, _, missing⟩ := reads _ _ text isText gives
  obtain ⟨network, blames⟩ := missing rfl
  have computed : ofJson text = .ok decoded := by decide +kernel
  obtain rfl := Except.ok.inj (read.symm.trans computed)
  have refused : decoded.validate = .error (netmaskFault decoded.netmask) := by decide +kernel
  exact ⟨⟨_, isText, gives⟩, read, blames _ refused, refused, shorter (by decide)⟩

end TunnelProvisioning.Addressing
