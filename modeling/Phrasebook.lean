import Phrasebook.Main
import Phrasebook.Config.Document
import Phrasebook.Source.Memory
import Phrasebook.Source.Site
import Phrasebook.Web.Service
import Phrasebook.Web.Startup
import Phrasebook.Proofs.Rendering
import Phrasebook.Proofs.NormalForm
import Phrasebook.Proofs.Search
import Phrasebook.Proofs.ShelfInvariant
import Phrasebook.Proofs.ShelfLoading
import Phrasebook.Proofs.Compiling
import Phrasebook.Proofs.Authoring
import Phrasebook.Proofs.Asking
import Phrasebook.Proofs.Paths
import Phrasebook.Proofs.SafeNames
import Phrasebook.Proofs.Agreement
import Phrasebook.Proofs.Serving
import Phrasebook.Proofs.Sessions
import Phrasebook.Proofs.CharacterBytes
import Phrasebook.Proofs.Decoding
import Phrasebook.Proofs.WideCharacters
import Phrasebook.Proofs.Interchange
import Phrasebook.Proofs.JsonText
import Phrasebook.Proofs.Serialising
import Phrasebook.Proofs.Forms
import Phrasebook.Proofs.Transcripts
import Phrasebook.Proofs.ShelfLookup
import Phrasebook.Proofs.RenderCommand
import Phrasebook.Proofs.JsonTokens
import Phrasebook.Proofs.JsonGrammar
import Phrasebook.Proofs.Magnitudes
import Phrasebook.Proofs.Documents
import Phrasebook.Proofs.Spellings
import Phrasebook.Proofs.ShelfOrder
import Phrasebook.Proofs.NamedLocales
import Phrasebook.Proofs.Substituting
import Phrasebook.Proofs.AttemptCounts
import Phrasebook.Proofs.Locality
import Phrasebook.Proofs.Faults
import Phrasebook.Proofs.CheckCommand
import Phrasebook.Proofs.ConfigDocuments
import Phrasebook.Proofs.Detection
import Phrasebook.Proofs.NormalConfigs
