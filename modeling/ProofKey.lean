import ProofKey.Authorization
import ProofKey.Base64Url
import ProofKey.Binding
import ProofKey.Challenge
import ProofKey.CodeStore
import ProofKey.CodeValue
import ProofKey.EnvFile
import ProofKey.EnvFile.Loader
import ProofKey.EnvFile.Variable
import ProofKey.Environment
import ProofKey.Error
import ProofKey.ErrorRedirect
import ProofKey.ErrorResponse
import ProofKey.Evaluation
import ProofKey.Form
import ProofKey.Grammar
import ProofKey.Http
import ProofKey.Http.Front
import ProofKey.Http.HeaderValue
import ProofKey.Http.Multipart
import ProofKey.Http.Route
import ProofKey.IpAddress
import ProofKey.Json
import ProofKey.Log
import ProofKey.Mapping
import ProofKey.Metadata
import ProofKey.Parameters
import ProofKey.Percent
import ProofKey.Query
import ProofKey.Registry
import ProofKey.Report
import ProofKey.Settings
import ProofKey.Sha256
import ProofKey.Text
import ProofKey.Text.Absent
import ProofKey.Text.Blank
import ProofKey.Text.CharacterName
import ProofKey.Text.CharacterName.Aliases
import ProofKey.Text.CharacterName.AncientScripts
import ProofKey.Text.CharacterName.EastAsia
import ProofKey.Text.CharacterName.Forms
import ProofKey.Text.CharacterName.Hieroglyphs
import ProofKey.Text.CharacterName.MoreScripts
import ProofKey.Text.CharacterName.Notations
import ProofKey.Text.CharacterName.Pictographs
import ProofKey.Text.CharacterName.Scripts
import ProofKey.Text.CharacterName.Symbols
import ProofKey.Text.Charset
import ProofKey.Text.Charset.Fault
import ProofKey.Text.Chinese
import ProofKey.Text.CodePage
import ProofKey.Text.CodePage.Ebcdic
import ProofKey.Text.CodePage.Iso8859
import ProofKey.Text.CodePage.Macintosh
import ProofKey.Text.CodePage.Personal
import ProofKey.Text.CodePage.Regional
import ProofKey.Text.CodePage.Windows
import ProofKey.Text.Escaped
import ProofKey.Text.Grid
import ProofKey.Text.Grid.Big5
import ProofKey.Text.Grid.Gb2312
import ProofKey.Text.Grid.Gbk
import ProofKey.Text.Grid.Hkscs
import ProofKey.Text.Grid.JisX0208
import ProofKey.Text.Grid.JisX0212
import ProofKey.Text.Grid.JisX0213
import ProofKey.Text.Grid.KsX1001
import ProofKey.Text.Grid.Windows31J
import ProofKey.Text.Hangul
import ProofKey.Text.Idna
import ProofKey.Text.Iso2022
import ProofKey.Text.Japanese
import ProofKey.Text.Korean
import ProofKey.Text.Latin1
import ProofKey.Text.Multibyte
import ProofKey.Text.Nameprep
import ProofKey.Text.Nameprep.Direction
import ProofKey.Text.Nameprep.Mapping
import ProofKey.Text.Nfkc
import ProofKey.Text.Nfkc.CombiningClass
import ProofKey.Text.Nfkc.Composition
import ProofKey.Text.Nfkc.Decomposition
import ProofKey.Text.Pieces
import ProofKey.Text.Printable
import ProofKey.Text.Punycode
import ProofKey.Text.Quoted
import ProofKey.Text.Run
import ProofKey.Text.Sorted
import ProofKey.Text.Utf16
import ProofKey.Text.Utf32
import ProofKey.Text.Utf7
import ProofKey.Text.Utf8
import ProofKey.TokenEndpoint
import ProofKey.Transform
import ProofKey.Uri
import ProofKey.Wire
import ProofKey.Proofs.Transform
import ProofKey.Proofs.CodeStore.Run
import ProofKey.Proofs.CodeStore.History
import ProofKey.Proofs.CodeStore.Binding
import ProofKey.Proofs.Authorization
import ProofKey.Proofs.CodeStore.HonestClient
import ProofKey.Proofs.TokenEndpoint.Exchange
import ProofKey.Proofs.Agreement
import ProofKey.Proofs.CodeStore.Redeemable
import ProofKey.Proofs.CodeValue.RoundTrip
import ProofKey.Proofs.TokenEndpoint.StoreView
import ProofKey.Proofs.Registry
import ProofKey.Proofs.Settings.EnabledMethods
import ProofKey.Proofs.TokenEndpoint.Mismatch
import ProofKey.Proofs.Secrecy
import ProofKey.Proofs.TokenEndpoint.Secrecy
import ProofKey.Proofs.Metadata
import ProofKey.Proofs.CodeStore.Independence
import ProofKey.Proofs.Evaluation.Decision
import ProofKey.Proofs.ErrorRedirect
import ProofKey.Proofs.ErrorRedirect.Target
import ProofKey.Proofs.Challenge
import ProofKey.Proofs.Utf8.PrefixCode
import ProofKey.Proofs.Settings.Precedence
import ProofKey.Proofs.CodeValue.Once
import ProofKey.Proofs.Settings.RoundTrip
import ProofKey.Proofs.ErrorRedirect.Secrecy
import ProofKey.Proofs.Mapping
import ProofKey.Proofs.TokenEndpoint.Gathering
