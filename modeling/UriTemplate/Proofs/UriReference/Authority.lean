import UriTemplate.Proofs.UriReference.Components
import UriTemplate.Proofs.UriReference.Grammar

namespace UriTemplate.UriReference

open PercentEncoding

/-! The alphabets of the checks are those of the rules. -/

/-- A reg-name has data characters only. -/
theorem isRegNameCharacter_eq : isRegNameCharacter = isDataOr "" := by
  funext codePoint
  simp [isRegNameCharacter, isDataOr, Text.ofString]

theorem isUserinfoCharacter_eq : isUserinfoCharacter = isDataOr ":" := by
  funext codePoint
  simp [isUserinfoCharacter, isRegNameCharacter, isDataOr, Text.ofString]

theorem isPathCharacter_eq : isPathCharacter = isDataOr ":@/" := by
  funext codePoint
  simp [isPathCharacter, isSegmentCharacter, isUserinfoCharacter, isRegNameCharacter, isDataOr,
    Text.ofString, Bool.or_assoc]

theorem isQueryCharacter_eq : isQueryCharacter = isDataOr ":@/?" := by
  funext codePoint
  simp [isQueryCharacter, isPathCharacter, isSegmentCharacter, isUserinfoCharacter,
    isRegNameCharacter, isDataOr, Text.ofString, Bool.or_assoc]

theorem isNonempty_iff {test : CodePoint → Bool} {text : Text} :
    isNonempty test text = true ↔ text ≠ [] ∧ ∀ codePoint ∈ text, test codePoint = true := by
  simp [isNonempty]

/-- Between the brackets there is an address, or a version and an address behind it. -/
theorem isAddress_iff {text : Text} :
    isAddress text = true ↔
      (text ≠ [] ∧ ∀ codePoint ∈ text, codePoint.isHexDigit = true ∨
        codePoint ∈ Text.ofString ":.") ∨
      ∃ (mark : CodePoint) (version address : Text), text = mark :: version ++ "." ++ address ∧
        mark ∈ Text.ofString "vV" ∧
        (version ≠ [] ∧ ∀ digit ∈ version, digit.isHexDigit = true) ∧
        (address ≠ [] ∧ ∀ codePoint ∈ address, isDataOr ":" codePoint = true) := by
  have groups : isNonempty (fun codePoint =>
        codePoint.isHexDigit || codePoint = ':' || codePoint = '.') text = true ↔
      (text ≠ [] ∧ ∀ codePoint ∈ text, codePoint.isHexDigit = true ∨
        codePoint ∈ Text.ofString ":.") := by
    simp [isNonempty_iff, Text.ofString, or_assoc]
  unfold isAddress
  rw [Bool.or_eq_true, groups]
  refine or_congr_right ?_
  constructor
  · intro isFuture
    cases text with
    | nil => cases isFuture
    | cons mark rest =>
        obtain ⟨isMark, others⟩ := Bool.and_eq_true_iff.mp isFuture
        rcases Text.cut_cases '.' rest with ⟨-, isCut⟩ | ⟨version, address, -, rfl, isCut⟩
        · simp [isCut] at others
        · simp only [isCut, Bool.and_eq_true, isNonempty_iff, isUserinfoCharacter_eq] at others
          refine ⟨mark, version, address, by simp [Text.ofString], ?_, others⟩
          simpa [Text.ofString] using isMark
  · rintro ⟨mark, version, address, rfl, isMark, isVersion, isData⟩
    have dotless : CodePoint.ofChar '.' ∉ version := fun member =>
      absurd (isVersion.2 _ member) (by decide)
    have isCut : Text.cut '.' (version ++ "." ++ address) = (version, some address) := by
      simpa [Text.ofString] using Text.cut_append_cons dotless address
    simp only [List.cons_append, isCut, Bool.and_eq_true, isNonempty_iff, isUserinfoCharacter_eq]
    exact ⟨by simpa [Text.ofString] using isMark, isVersion, isData⟩

/-- A host is a reg-name or an address in brackets. -/
theorem isHost_iff {host : Text} :
    IsHost host ↔ IsRegName host ∨ ∃ address, isAddress address = true ∧
      host = "[" ++ address ++ "]" := by
  constructor
  · rintro (isRegName | areOctets | ⟨nonempty, groups⟩ |
      ⟨isMark, hasVersion, isVersion, nonempty, isData⟩)
    · exact .inl isRegName
    · exact .inl (isRegName_numbers _)
    · exact .inr ⟨_, isAddress_iff.mpr (.inl ⟨nonempty, groups⟩), rfl⟩
    · exact .inr ⟨_, isAddress_iff.mpr (.inr ⟨_, _, _, rfl, isMark, ⟨hasVersion, isVersion⟩,
        nonempty, isData⟩), rfl⟩
  · rintro (isRegName | ⟨address, isAddress, rfl⟩)
    · exact .name isRegName
    · rcases isAddress_iff.mp isAddress with ⟨nonempty, groups⟩ |
        ⟨mark, version, address, rfl, isMark, isVersion, isData⟩
      · exact .address nonempty groups
      · exact .future isMark isVersion.1 isVersion.2 isData.1 isData.2

/-- An address has data characters and colons. -/
theorem isData_of_isAddress {address : Text} (isAddress : isAddress address = true) :
    ∀ codePoint ∈ address, isDataOr ":" codePoint = true := by
  intro codePoint member
  rcases isAddress_iff.mp isAddress with ⟨-, groups⟩ |
    ⟨mark, version, address, rfl, isMark, isVersion, isData⟩
  · rcases groups codePoint member with isHexDigit | isMark
    · exact isDataOr_of_isHexDigit ":" isHexDigit
    · have marks : ∀ mark ∈ Text.ofString ":.", isDataOr ":" mark = true := by decide
      exact marks codePoint isMark
  · have marks : ∀ mark ∈ Text.ofString "vV" ++ Text.ofString ".", isDataOr ":" mark = true := by
      decide
    simp only [List.cons_append, List.append_assoc, List.mem_cons, List.mem_append] at member
    rcases member with rfl | inVersion | isDot | inAddress
    · exact marks _ (List.mem_append_left _ isMark)
    · exact isDataOr_of_isHexDigit ":" (isVersion.2 _ inVersion)
    · exact marks _ (List.mem_append_right _ isDot)
    · exact isData.2 _ inAddress

/-- A host has data characters, colons and brackets. -/
theorem IsHost.isMadeOf {host : Text} (isHost : IsHost host) :
    IsMadeOf (isDataOr ":[]") host := by
  rcases isHost_iff.mp isHost with isRegName | ⟨address, isAddress, rfl⟩
  · exact isMadeOf_of_subset (List.nil_subset _) isRegName
  · have isData := IsMadeOf.of_forall (isData_of_isAddress isAddress)
    exact ((IsMadeOf.of_forall (by decide)).append
      (isMadeOf_of_subset (by decide) isData)).append (.of_forall (by decide))

/-- An optional part adds its mark to what it is made of. -/
theorem IsOptional.isMadeOf {test : CodePoint → Bool} {mark : CodePoint} {rule : Text → Prop}
    {text : Text} (isOptional : IsOptional mark rule text) (passes : test mark = true)
    (partIsMadeOf : ∀ part, rule part → IsMadeOf test part) : IsMadeOf test text := by
  cases isOptional with
  | absent => exact .empty
  | present isPart => exact .character passes (partIsMadeOf _ isPart)

/-- A port has a colon and digits. -/
theorem isMadeOf_port {marks port : Text} (isColon : isDataOr marks (CodePoint.ofChar ':') = true)
    (isPort : IsOptional ':' IsPort port) : IsMadeOf (isDataOr marks) port :=
  isPort.isMadeOf isColon fun _ isPort =>
    .of_forall fun digit member => isDataOr_of_isDigit marks (isPort digit member)

/-- An authority has data characters, colons, an at sign and brackets. -/
theorem IsAuthority.isMadeOf {authority : Text} (isAuthority : IsAuthority authority) :
    IsMadeOf (isDataOr ":@[]") authority := by
  cases isAuthority with
  | server isHost isPort =>
      exact (isMadeOf_of_subset (by decide) isHost.isMadeOf).append
        (isMadeOf_port (by decide) isPort)
  | user isUserinfo isHost isPort =>
      exact ((isMadeOf_of_subset (by decide) isUserinfo).append (.of_forall (by decide))).append
        ((isMadeOf_of_subset (by decide) isHost.isMadeOf).append
          (isMadeOf_port (by decide) isPort))

/-! Final line feeds. -/

/-- The rule holds of the text, or of all of it but a line feed at the very end. -/
inductive UpToLineFeed (rule : Text → Prop) : Text → Prop
  | whole {text : Text} (isText : rule text) : UpToLineFeed rule text
  | lineFeed {text : Text} (isText : rule text) :
      UpToLineFeed rule (text ++ [CodePoint.ofChar '\n'])

namespace UpToLineFeed

variable {rule : Text → Prop} {text : Text}

/-- Without a line feed the rule itself is kept. -/
theorem of_lineFeedless (isUpTo : UpToLineFeed rule text)
    (lineFeedless : CodePoint.ofChar '\n' ∉ text) : rule text := by
  cases isUpTo with
  | whole isText => exact isText
  | lineFeed => simp at lineFeedless

/-- A line feed at the end is the only other character. -/
theorem isMadeOf {test : CodePoint → Bool} (isUpTo : UpToLineFeed rule text)
    (passes : test (CodePoint.ofChar '\n') = true)
    (ruleIsMadeOf : ∀ part, rule part → IsMadeOf test part) : IsMadeOf test text := by
  cases isUpTo with
  | whole isText => exact ruleIsMadeOf text isText
  | lineFeed isText => exact (ruleIsMadeOf _ isText).append (.character passes .empty)

end UpToLineFeed

/-- A check that overlooks a final line feed accepts what keeps the rule up to one. -/
theorem upToFinalLineFeed_iff_upToLineFeed {accepts : Text → Bool} {rule : Text → Prop}
    (isRule : ∀ text, accepts text = true ↔ rule text) {text : Text} :
    upToFinalLineFeed accepts text = true ↔ UpToLineFeed rule text := by
  constructor
  · intro isAccepted
    simp only [upToFinalLineFeed, Bool.or_eq_true, Bool.and_eq_true, decide_eq_true_eq]
      at isAccepted
    rcases isAccepted with isWhole | ⟨isLast, isBody⟩
    · exact .whole ((isRule text).mp isWhole)
    · rw [← List.dropLast_append_getLast? _ isLast]
      exact .lineFeed ((isRule _).mp isBody)
  · rintro (isText | @⟨body, isBody⟩)
    · exact upToFinalLineFeed_of_accepts ((isRule text).mpr isText)
    · simp [upToFinalLineFeed, (isRule body).mpr isBody]

/-- A check of characters accepts texts made of them, up to a line feed. -/
theorem upToFinalLineFeed_consistsOf {marks : Text} {test : CodePoint → Bool}
    (sameTest : test = isDataOr marks) (isNoData : isDataOr marks (CodePoint.ofChar '%') = false)
    {text : Text} :
    upToFinalLineFeed (consistsOf test) text = true ↔
      UpToLineFeed (IsMadeOf (isDataOr marks)) text := by
  subst sameTest
  exact upToFinalLineFeed_iff_upToLineFeed fun _ => consistsOf_iff isNoData

/-! Checking. -/

/-- A name, or an address in square brackets, which cannot end in a line feed. -/
inductive IsCheckedHost : Text → Prop
  | name {name : Text} (isRegName : UpToLineFeed IsRegName name) : IsCheckedHost name
  | address {address : Text} (isAddress : isAddress address = true) :
      IsCheckedHost ("[" ++ address ++ "]")

/-- An authority whose parts keep their rules up to a final line feed of each part. -/
inductive IsCheckedAuthority : Text → Prop
  | server {host port : Text} (isHost : IsCheckedHost host)
      (isPort : IsOptional ':' (UpToLineFeed IsPort) port) : IsCheckedAuthority (host ++ port)
  | user {userinfo host port : Text} (isUserinfo : UpToLineFeed IsUserinfo userinfo)
      (isHost : IsCheckedHost host) (isPort : IsOptional ':' (UpToLineFeed IsPort) port) :
      IsCheckedAuthority (userinfo ++ "@" ++ (host ++ port))

/-- A port is checked up to a line feed. -/
theorem checkPort_iff {port : Text} : checkPort port = .ok () ↔ UpToLineFeed IsPort port := by
  rw [checkPort, require_eq_ok_iff]
  exact upToFinalLineFeed_iff_upToLineFeed fun text => by simp [isPort, IsPort]

/-- Behind the host stands nothing, or a colon and a port. -/
theorem isOptional_port_iff {port : Text} :
    IsOptional ':' (UpToLineFeed IsPort) port ↔
      (port.isEmpty || port.head? = some (CodePoint.ofChar ':')) = true ∧
        checkPort (port.drop 1) = .ok () := by
  rw [checkPort_iff]
  constructor
  · rintro (_ | digits)
    · exact ⟨rfl, .whole (by simp [IsPort])⟩
    · exact ⟨by simp, digits⟩
  · rintro ⟨starts, digits⟩
    cases port with
    | nil => exact .absent
    | cons first rest =>
        obtain rfl : first = ':' := by simpa using starts
        exact .present digits

/-- A checked port has a colon, digits and perhaps a line feed. -/
theorem isMadeOf_of_isOptional_port {marks port : Text} (isSubset : Text.ofString ":\n" ⊆ marks)
    (isPort : IsOptional ':' (UpToLineFeed IsPort) port) : IsMadeOf (isDataOr marks) port := by
  have isMark {mark : CodePoint} (member : mark ∈ Text.ofString ":\n") :
      isDataOr marks mark = true := by
    simp [isDataOr, isSubset member]
  refine isPort.isMadeOf (isMark (by decide)) fun part isPart => ?_
  refine isPart.isMadeOf (isMark (by decide)) fun digits areDigits => ?_
  exact .of_forall fun digit member => isDataOr_of_isDigit marks (areDigits digit member)

/-- A checked host has the characters of hosts and perhaps a line feed. -/
theorem IsCheckedHost.isMadeOf {host : Text} (isHost : IsCheckedHost host) :
    IsMadeOf (isDataOr ":[]\n") host := by
  cases isHost with
  | name isRegName =>
      exact isRegName.isMadeOf (by decide) fun _ => isMadeOf_of_subset (List.nil_subset _)
  | @address address isAddress =>
      have isHost := isHost_iff.mpr (.inr ⟨address, isAddress, rfl⟩)
      exact isMadeOf_of_subset (by decide) isHost.isMadeOf

/-- A name ends at the first colon, an address at the first closing bracket. -/
theorem checkHostAndPort_append {host port : Text} (authority : Text) (isHost : IsCheckedHost host)
    (isPort : IsOptional ':' (UpToLineFeed IsPort) port) :
    checkHostAndPort authority (host ++ port) = .ok () := by
  obtain ⟨starts, portIsOk⟩ := isOptional_port_iff.mp isPort
  cases isHost with
  | name isRegName =>
      have isMadeOf : IsMadeOf (isDataOr "\n") host :=
        isRegName.isMadeOf (by decide) fun _ => isMadeOf_of_subset (List.nil_subset _)
      have isFree : ∀ codePoint ∈ host, codePoint ∉ Text.ofString ":[" :=
        not_mem_of_isMadeOf isMadeOf (by decide)
      have portIsMadeOf : IsMadeOf (isDataOr ":\n") port :=
        isMadeOf_of_isOptional_port (List.Subset.refl _) isPort
      have isNoAddress : (host ++ port).head? ≠ some (CodePoint.ofChar '[') := by
        intro isBracket
        rcases List.mem_append.mp (List.mem_of_head? isBracket) with inHost | inPort
        · exact isFree _ inHost (by decide)
        · exact portIsMadeOf.not_mem (by decide) (by decide) inPort
      have colonless : CodePoint.ofChar ':' ∉ host := fun member => isFree _ member (by decide)
      have hostIsOk : require (upToFinalLineFeed (consistsOf isRegNameCharacter) host)
          (.host host) = .ok () :=
        require_eq_ok_iff.mpr
          ((upToFinalLineFeed_consistsOf isRegNameCharacter_eq (by decide)).mpr isRegName)
      rw [checkHostAndPort, if_neg isNoAddress]
      cases isPort with
      | absent =>
          rw [List.append_nil, Text.cut_of_not_mem colonless]
          exact bind_eq_ok_iff.mpr ⟨hostIsOk, portIsOk⟩
      | present digits =>
          rw [Text.cut_append_cons colonless]
          exact bind_eq_ok_iff.mpr ⟨hostIsOk, portIsOk⟩
  | @address address isAddress =>
      have bracketless : CodePoint.ofChar ']' ∉ address := fun member =>
        absurd (isData_of_isAddress isAddress _ member) (by decide)
      have written : ("[" ++ address ++ "]" ++ port : Text) =
          CodePoint.ofChar '[' :: (address ++ CodePoint.ofChar ']' :: port) := by
        simp [Text.ofString]
      rw [written, checkHostAndPort, if_pos (by rfl), List.drop_one, List.tail_cons,
        Text.cut_append_cons bracketless]
      simp only [bind_eq_ok_iff, require_eq_ok_iff]
      exact ⟨isAddress, starts, portIsOk⟩

/-- What passes the check is a checked host and perhaps a port. -/
theorem isCheckedHost_of_checkHostAndPort {authority text : Text}
    (isOk : checkHostAndPort authority text = .ok ()) :
    ∃ host port, text = host ++ port ∧ IsCheckedHost host ∧
      IsOptional ':' (UpToLineFeed IsPort) port := by
  rw [checkHostAndPort] at isOk
  split at isOk
  case isTrue startsWithBracket =>
      obtain ⟨rest, rfl⟩ := List.head?_eq_some_iff.mp startsWithBracket
      rw [List.drop_one, List.tail_cons] at isOk
      rcases Text.cut_cases ']' rest with ⟨-, isCut⟩ | ⟨address, port, -, rfl, isCut⟩
      · rw [isCut] at isOk
        cases isOk
      · rw [isCut] at isOk
        simp only [bind_eq_ok_iff, require_eq_ok_iff] at isOk
        obtain ⟨isAddress, starts, portIsOk⟩ := isOk
        exact ⟨"[" ++ address ++ "]", port, by simp [Text.ofString], .address isAddress,
          isOptional_port_iff.mpr ⟨starts, portIsOk⟩⟩
  case isFalse =>
      have isRegName {host : Text} (hostIsOk : require
          (upToFinalLineFeed (consistsOf isRegNameCharacter) host) (.host host) = .ok ()) :
          UpToLineFeed IsRegName host :=
        (upToFinalLineFeed_consistsOf isRegNameCharacter_eq (by decide)).mp
          (require_eq_ok_iff.mp hostIsOk)
      rcases Text.cut_cases ':' text with ⟨-, isCut⟩ | ⟨host, port, -, rfl, isCut⟩
      · simp only [isCut, bind_eq_ok_iff] at isOk
        exact ⟨text, [], (List.append_nil text).symm, .name (isRegName isOk.1), .absent⟩
      · simp only [isCut, bind_eq_ok_iff] at isOk
        exact ⟨host, _, rfl, .name (isRegName isOk.1), .present (checkPort_iff.mp isOk.2)⟩

/-- The check of authorities accepts what it is said to accept. -/
theorem checkAuthority_iff {authority : Text} :
    checkAuthority authority = .ok () ↔ IsCheckedAuthority authority := by
  have isUserinfo_iff {userinfo : Text} :
      upToFinalLineFeed (consistsOf isUserinfoCharacter) userinfo = true ↔
        UpToLineFeed IsUserinfo userinfo :=
    upToFinalLineFeed_consistsOf isUserinfoCharacter_eq (by decide)
  constructor
  · intro isOk
    rw [checkAuthority] at isOk
    rcases Text.cut_cases '@' authority with ⟨-, isCut⟩ | ⟨userinfo, behind, -, rfl, isCut⟩
    · rw [isCut] at isOk
      obtain ⟨host, port, rfl, isHost, isPort⟩ := isCheckedHost_of_checkHostAndPort isOk
      exact .server isHost isPort
    · rw [isCut] at isOk
      simp only [bind_eq_ok_iff, require_eq_ok_iff, isUserinfo_iff] at isOk
      obtain ⟨host, port, rfl, isHost, isPort⟩ := isCheckedHost_of_checkHostAndPort isOk.2
      have isAuthority := IsCheckedAuthority.user isOk.1 isHost isPort
      rwa [List.append_assoc] at isAuthority
  · have markless {host port : Text} (isHost : IsCheckedHost host)
        (isPort : IsOptional ':' (UpToLineFeed IsPort) port) :
        CodePoint.ofChar '@' ∉ host ++ port := by
      have isMadeOf : IsMadeOf (isDataOr ":[]\n") (host ++ port) :=
        isHost.isMadeOf.append (isMadeOf_of_isOptional_port (by decide) isPort)
      exact isMadeOf.not_mem (by decide) (by decide)
    rintro (@⟨host, port, isHost, isPort⟩ | @⟨userinfo, host, port, isUserinfo, isHost, isPort⟩)
    · rw [checkAuthority, Text.cut_of_not_mem (markless isHost isPort)]
      exact checkHostAndPort_append _ isHost isPort
    · have isMadeOf : IsMadeOf (isDataOr ":\n") userinfo :=
        isUserinfo.isMadeOf (by decide) fun _ => isMadeOf_of_subset (by decide)
      have isCut : Text.cut '@' (userinfo ++ "@" ++ (host ++ port)) =
          (userinfo, some (host ++ port)) := by
        rw [List.append_assoc]
        exact Text.cut_append_cons (isMadeOf.not_mem (by decide) (by decide)) (host ++ port)
      rw [checkAuthority, isCut]
      exact bind_eq_ok_iff.mpr ⟨require_eq_ok_iff.mpr (isUserinfo_iff.mpr isUserinfo),
        checkHostAndPort_append _ isHost isPort⟩

/-! Without line feeds the checks are the rules. -/

/-- A weaker rule allows the same optional parts. -/
theorem IsOptional.imp {mark : CodePoint} {rule weaker : Text → Prop} {text : Text}
    (isOptional : IsOptional mark rule text) (weaken : ∀ part ⊆ text, rule part → weaker part) :
    IsOptional mark weaker text := by
  cases isOptional with
  | absent => exact .absent
  | present isPart => exact .present (weaken _ (List.subset_cons_self _ _) isPart)

/-- Every host passes the check. -/
theorem IsHost.isCheckedHost {host : Text} (isHost : IsHost host) : IsCheckedHost host := by
  rcases isHost_iff.mp isHost with isRegName | ⟨address, isAddress, rfl⟩
  · exact .name (.whole isRegName)
  · exact .address isAddress

/-- A checked host without a line feed is a host. -/
theorem IsCheckedHost.isHost {host : Text} (isHost : IsCheckedHost host)
    (lineFeedless : CodePoint.ofChar '\n' ∉ host) : IsHost host := by
  cases isHost with
  | name isRegName => exact .name (isRegName.of_lineFeedless lineFeedless)
  | address isAddress => exact isHost_iff.mpr (.inr ⟨_, isAddress, rfl⟩)

/-- Every authority passes the check. -/
theorem IsAuthority.isCheckedAuthority {authority : Text} (isAuthority : IsAuthority authority) :
    IsCheckedAuthority authority := by
  cases isAuthority with
  | server isHost isPort =>
      exact .server isHost.isCheckedHost (isPort.imp fun _ _ => .whole)
  | user isUserinfo isHost isPort =>
      exact .user (.whole isUserinfo) isHost.isCheckedHost (isPort.imp fun _ _ => .whole)

/-- A checked authority without a line feed is an authority. -/
theorem IsCheckedAuthority.isAuthority {authority : Text}
    (isAuthority : IsCheckedAuthority authority)
    (lineFeedless : CodePoint.ofChar '\n' ∉ authority) : IsAuthority authority := by
  have isPort {port : Text} (isPort : IsOptional ':' (UpToLineFeed IsPort) port)
      (portIsFree : CodePoint.ofChar '\n' ∉ port) : IsOptional ':' IsPort port :=
    isPort.imp fun _ isSubset isPart => isPart.of_lineFeedless fun member =>
      portIsFree (isSubset member)
  cases isAuthority with
  | server isHost port =>
      simp only [List.mem_append, not_or] at lineFeedless
      exact .server (isHost.isHost lineFeedless.1) (isPort port lineFeedless.2)
  | user isUserinfo isHost port =>
      simp only [List.mem_append, not_or] at lineFeedless
      exact .user (isUserinfo.of_lineFeedless lineFeedless.1.1)
        (isHost.isHost lineFeedless.2.1) (isPort port lineFeedless.2.2)

end UriTemplate.UriReference
