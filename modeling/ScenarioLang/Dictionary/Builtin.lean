import ScenarioLang.Dictionary

namespace ScenarioLang.Dictionary

def englishWords : Keyword → List String
  | .language => ["language"]
  | .importPath => ["import"]
  | .feature => ["feature", "story", "user story"]
  | .background => ["background"]
  | .variantBackground => ["variant background"]
  | .scenario => ["scenario"]
  | .variant => ["variant"]
  | .testCase => ["test case"]
  | .block .constant => ["constants"]
  | .block .regex => ["regular expressions"]
  | .table => ["table"]
  | .database => ["database"]
  | .uiElement => ["user interface element", "ui element", "element", "widget"]
  | .event .beforeAll => ["before all"]
  | .event .afterAll => ["after all"]
  | .event .beforeFeature => ["before feature"]
  | .event .afterFeature => ["after feature"]
  | .event .beforeEachScenario => ["before each scenario"]
  | .event .afterEachScenario => ["after each scenario"]
  | .step .given => ["given"]
  | .step .action => ["when"]
  | .step .outcome => ["then"]
  | .step .also => ["and", "but"]
  | .step .otherwise => ["otherwise", "if it fails"]
  | .is => ["is"]
  | .tag .feature => ["feature"]
  | .tag .scenario => ["scenario"]
  | .tag .variant => ["variant"]
  | .tag .generated => ["generated"]
  | .tag .fail => ["fail"]
  | .tag .ignore => ["ignore"]
  | .tag .everywhere => ["global"]
  | .tag .importance => ["importance"]
  | .tag .validValuesOnly => ["generate-only-valid-values"]

def portugueseWords : Keyword → List String
  | .language => ["idioma", "língua"]
  | .importPath => ["importe", "importar"]
  | .feature => ["funcionalidade", "característica", "história", "história de usuário"]
  | .background => ["contexto"]
  | .variantBackground => ["contexto de variante"]
  | .scenario => ["cenário"]
  | .variant => ["variante"]
  | .testCase => ["caso de teste"]
  | .block .constant => ["constantes"]
  | .block .regex => ["expressões regulares"]
  | .table => ["tabela"]
  | .database => ["banco de dados"]
  | .uiElement => ["elemento de interface de usuário", "elemento de interface", "elemento", "widget"]
  | .event .beforeAll => ["antes de todos"]
  | .event .afterAll => ["depois de todos", "após todos"]
  | .event .beforeFeature => ["antes da funcionalidade", "antes da característica"]
  | .event .afterFeature => ["depois da funcionalidade", "depois da característica"]
  | .event .beforeEachScenario => ["antes de cada cenário"]
  | .event .afterEachScenario => ["depois de cada cenário", "após cada cenário"]
  | .step .given => ["dado que", "dado", "dada", "dados", "dadas"]
  | .step .action => ["quando"]
  | .step .outcome => ["então", "entao"]
  | .step .also => ["e", "mas"]
  | .step .otherwise => ["caso contrário", "senão"]
  | .is => ["é"]
  | .tag .feature => ["funcionalidade", "característica"]
  | .tag .scenario => ["cenário"]
  | .tag .variant => ["variante"]
  | .tag .generated => ["gerado", "gerada"]
  | .tag .fail => ["falha"]
  | .tag .ignore => ["ignore", "ignorar"]
  | .tag .everywhere => ["global"]
  | .tag .importance => ["importância"]
  | .tag .validValuesOnly => ["gerar-apenas-valores-válidos"]

def spanishWords : Keyword → List String
  | .language => ["idioma", "lengua"]
  | .importPath => ["importe", "importar"]
  | .feature => ["característica", "funcionalidad", "historia", "historia de usuario"]
  | .background => ["antecedentes", "contexto"]
  | .variantBackground => ["contexto de variante"]
  | .scenario => ["escenario"]
  | .variant => ["variante"]
  | .testCase => ["caso de prueba"]
  | .block .constant => ["constantes"]
  | .block .regex => ["expresiones regulares"]
  | .table => ["tabla"]
  | .database => ["base de datos"]
  | .uiElement => ["elemento de interfaz de usuario", "elemento de interfaz", "elemento", "widget"]
  | .event .beforeAll => ["antes de todos"]
  | .event .afterAll => ["después de todos"]
  | .event .beforeFeature => ["antes de la característica", "antes de la funcionalidad"]
  | .event .afterFeature => ["después de la característica", "después de la funcionalidad"]
  | .event .beforeEachScenario => ["antes de cada escenario"]
  | .event .afterEachScenario => ["después de cada escenario"]
  | .step .given => ["dado que", "dado", "dada", "dados", "dadas"]
  | .step .action => ["cuando"]
  | .step .outcome => ["entonces"]
  | .step .also => ["y", "pero"]
  | .step .otherwise => ["de lo contrario", "si falla"]
  | .is => ["es"]
  | .tag .feature => ["característica", "funcionalidad"]
  | .tag .scenario => ["escenario"]
  | .tag .variant => ["variante"]
  | .tag .generated => ["generado", "generada"]
  | .tag .fail => ["falla"]
  | .tag .ignore => ["ignorar"]
  | .tag .everywhere => ["global"]
  | .tag .importance => ["importancia"]
  | .tag .validValuesOnly => ["generar-solo-valores-válidos"]

def english : Dictionary := ⟨"en".toList,fun keyword => (englishWords keyword).map String.toList⟩
def portuguese : Dictionary := ⟨"pt".toList,fun keyword => (portugueseWords keyword).map String.toList⟩
def spanish : Dictionary := ⟨"es".toList,fun keyword => (spanishWords keyword).map String.toList⟩

def builtin : List Dictionary := [english, portuguese, spanish]

end ScenarioLang.Dictionary
