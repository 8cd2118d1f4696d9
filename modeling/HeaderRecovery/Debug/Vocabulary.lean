/-! Names of the debugging-information format: the kinds of entries and of attributes that
the program reads. A code without a name here is kept as it is. -/
namespace HeaderRecovery.Debug

/-- What an entry describes. -/
inductive Tag where
  | arrayType | classType | enumerationType | formalParameter | importedDeclaration | member
  | pointerType | referenceType | compileUnit | structureType | subroutineType | typedef
  | unionType | unspecifiedParameters | inheritance | memberPointerType | subrangeType | baseType
  | constType | enumerator | subprogram | templateTypeParameter | templateValueParameter
  | dataVariable | volatileType | restrictType | namespaceScope | importedModule | unspecifiedType
  | typeUnit | rvalueReferenceType | atomicType | templateTemplateParameter
  | templateParameterPack
  | other (code : UInt16)
  deriving DecidableEq, Repr

namespace Tag

def code : Tag → UInt16
  | arrayType => 0x1
  | classType => 0x2
  | enumerationType => 0x4
  | formalParameter => 0x5
  | importedDeclaration => 0x8
  | member => 0xd
  | pointerType => 0xf
  | referenceType => 0x10
  | compileUnit => 0x11
  | structureType => 0x13
  | subroutineType => 0x15
  | typedef => 0x16
  | unionType => 0x17
  | unspecifiedParameters => 0x18
  | inheritance => 0x1c
  | memberPointerType => 0x1f
  | subrangeType => 0x21
  | baseType => 0x24
  | constType => 0x26
  | enumerator => 0x28
  | subprogram => 0x2e
  | templateTypeParameter => 0x2f
  | templateValueParameter => 0x30
  | dataVariable => 0x34
  | volatileType => 0x35
  | restrictType => 0x37
  | namespaceScope => 0x39
  | importedModule => 0x3a
  | unspecifiedType => 0x3b
  | typeUnit => 0x41
  | rvalueReferenceType => 0x42
  | atomicType => 0x47
  | templateTemplateParameter => 0x4106
  | templateParameterPack => 0x4107
  | other c => c

def ofCode (code : UInt16) : Tag :=
  match code.toNat with
  | 0x1 => arrayType
  | 0x2 => classType
  | 0x4 => enumerationType
  | 0x5 => formalParameter
  | 0x8 => importedDeclaration
  | 0xd => member
  | 0xf => pointerType
  | 0x10 => referenceType
  | 0x11 => compileUnit
  | 0x13 => structureType
  | 0x15 => subroutineType
  | 0x16 => typedef
  | 0x17 => unionType
  | 0x18 => unspecifiedParameters
  | 0x1c => inheritance
  | 0x1f => memberPointerType
  | 0x21 => subrangeType
  | 0x24 => baseType
  | 0x26 => constType
  | 0x28 => enumerator
  | 0x2e => subprogram
  | 0x2f => templateTypeParameter
  | 0x30 => templateValueParameter
  | 0x34 => dataVariable
  | 0x35 => volatileType
  | 0x37 => restrictType
  | 0x39 => namespaceScope
  | 0x3a => importedModule
  | 0x3b => unspecifiedType
  | 0x41 => typeUnit
  | 0x42 => rvalueReferenceType
  | 0x47 => atomicType
  | 0x4106 => templateTemplateParameter
  | 0x4107 => templateParameterPack
  | _ => other code

end Tag

/-- What a value of an entry says about it. -/
inductive Attribute where
  | name | byteSize | bitSize | statementList | lowPc | compileDirectory | constantValue
  | containingType | importTarget | inlining | upperBound | abstractOrigin | accessibility
  | artificial | count | memberLocation | declaredFile | declaredLine | encoding | external
  | specification | type | virtuality | mutable | explicit | signature | dataBitOffset
  | enumClass | linkageName | stringOffsetsBase | addressBase | noReturn | exportSymbols
  | deleted | defaulted | vendorLinkageName | vendorAddressBase
  | other (code : UInt16)
  deriving DecidableEq, Repr

namespace Attribute

def code : Attribute → UInt16
  | name => 0x3
  | byteSize => 0xb
  | bitSize => 0xd
  | statementList => 0x10
  | lowPc => 0x11
  | compileDirectory => 0x1b
  | constantValue => 0x1c
  | containingType => 0x1d
  | importTarget => 0x18
  | inlining => 0x20
  | upperBound => 0x2f
  | abstractOrigin => 0x31
  | accessibility => 0x32
  | artificial => 0x34
  | count => 0x37
  | memberLocation => 0x38
  | declaredFile => 0x3a
  | declaredLine => 0x3b
  | encoding => 0x3e
  | external => 0x3f
  | specification => 0x47
  | type => 0x49
  | virtuality => 0x4c
  | mutable => 0x61
  | explicit => 0x63
  | signature => 0x69
  | dataBitOffset => 0x6b
  | enumClass => 0x6d
  | linkageName => 0x6e
  | stringOffsetsBase => 0x72
  | addressBase => 0x73
  | noReturn => 0x87
  | exportSymbols => 0x89
  | deleted => 0x8a
  | defaulted => 0x8b
  | vendorLinkageName => 0x2007
  | vendorAddressBase => 0x2133
  | other c => c

def ofCode (code : UInt16) : Attribute :=
  match code.toNat with
  | 0x3 => name
  | 0xb => byteSize
  | 0xd => bitSize
  | 0x10 => statementList
  | 0x11 => lowPc
  | 0x1b => compileDirectory
  | 0x1c => constantValue
  | 0x1d => containingType
  | 0x18 => importTarget
  | 0x20 => inlining
  | 0x2f => upperBound
  | 0x31 => abstractOrigin
  | 0x32 => accessibility
  | 0x34 => artificial
  | 0x37 => count
  | 0x38 => memberLocation
  | 0x3a => declaredFile
  | 0x3b => declaredLine
  | 0x3e => encoding
  | 0x3f => external
  | 0x47 => specification
  | 0x49 => type
  | 0x4c => virtuality
  | 0x61 => mutable
  | 0x63 => explicit
  | 0x69 => signature
  | 0x6b => dataBitOffset
  | 0x6d => enumClass
  | 0x6e => linkageName
  | 0x72 => stringOffsetsBase
  | 0x73 => addressBase
  | 0x87 => noReturn
  | 0x89 => exportSymbols
  | 0x8a => deleted
  | 0x8b => defaulted
  | 0x2007 => vendorLinkageName
  | 0x2133 => vendorAddressBase
  | _ => other code

end Attribute

end HeaderRecovery.Debug
