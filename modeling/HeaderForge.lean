import HeaderForge.CommandLine.Folder
import HeaderForge.Main
import HeaderForge.Proofs.Ascending
import HeaderForge.Proofs.Brackets.Units
import HeaderForge.Proofs.Declarations
import HeaderForge.Proofs.Delivery
import HeaderForge.Proofs.Dependencies
import HeaderForge.Proofs.Deprecation
import HeaderForge.Proofs.Docs.Headers
import HeaderForge.Proofs.Emission
import HeaderForge.Proofs.Fields
import HeaderForge.Proofs.FileScope
import HeaderForge.Proofs.Functions
import HeaderForge.Proofs.Manifest.Normalizing
import HeaderForge.Proofs.Manifest.Positions
import HeaderForge.Proofs.Manifest.Units
import HeaderForge.Proofs.Methods
import HeaderForge.Proofs.Outcome
import HeaderForge.Proofs.Page
import HeaderForge.Proofs.Paths.Headers
import HeaderForge.Proofs.Paths.Includes
import HeaderForge.Proofs.Prefixes.Headers
import HeaderForge.Proofs.Settled
import HeaderForge.Proofs.Statements
import HeaderForge.Proofs.TypeUse.Announced
import HeaderForge.Proofs.TypeUse.Declarations
import HeaderForge.Proofs.TypeUse.Marking
import HeaderForge.Proofs.TypeUse.Members
import HeaderForge.Proofs.TypeUse.References
import HeaderForge.Proofs.TypeUse.Types
import HeaderForge.Proofs.TypeUse.Uses
import HeaderForge.Proofs.Calls
import HeaderForge.Proofs.Indentation
import HeaderForge.Proofs.Enumerators
import HeaderForge.Proofs.Stopped
import HeaderForge.Proofs.Aliases
import HeaderForge.Proofs.AnnotationMembers
import HeaderForge.Proofs.TypeNames
import HeaderForge.Proofs.NativeMethods
import HeaderForge.Proofs.ObjectVariables
import HeaderForge.Proofs.Signatures
import HeaderForge.Proofs.EnumMethods
import HeaderForge.Proofs.Listings
import HeaderForge.Proofs.Literals.Integers
import HeaderForge.Proofs.Literals.Decimals
import HeaderForge.Header.ScientificForm
import HeaderForge.Proofs.CamelCase
import HeaderForge.Proofs.Arguments
import HeaderForge.Proofs.Literals.ScientificForm
import HeaderForge.Proofs.Manifest.Keys
import HeaderForge.Proofs.Literals.ScientificTexts
